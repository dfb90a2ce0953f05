import Mathlib
import Rulebook.Proofs.Settings.Merging

/-!
# Paths in merged trees

What a merged tree binds a path to is decided by the upper tree, if it binds the path or has a
value on the way there, and by the lower tree otherwise. Trees are the same if they bind every path
alike; the order of their entries does not count. So nothing changes if one of two merged trees is
empty, if a tree is laid over itself, or if the upper tree is laid over the merged tree once more.
-/

namespace Rulebook

namespace Tree

variable {α : Type}

/-- What a path is bound to: a value, or a branch, whatever is in it. -/
inductive Binding (α : Type)
  | value (value : α)
  | branch
deriving DecidableEq, Repr

/-- What a tree binds at its root. -/
def binding : Tree α → Binding α
  | leaf value => .value value
  | branch _ => .branch

/-- What the tree binds a path to, if it binds it. -/
def binding? (tree : Tree α) (path : List String) : Option (Binding α) :=
  (tree.find? path).map binding

/-- The tree leaves a path to others: it does not bind it, and no value stands on the way there. -/
structure LeavesOpen (tree : Tree α) (path : List String) : Prop where
  unbound : tree.binding? path = none
  passable : ∀ front, front <+: path → front ≠ path →
    ∀ value, tree.binding? front ≠ some (.value value)

/-- The trees bind all paths alike: they are equal as mappings, in whatever order their entries
stand. -/
def IsSame (left right : Tree α) : Prop :=
  ∀ path, left.binding? path = right.binding? path

variable {tree base override : Tree α} {path : List String}

/-! ## Bindings -/

@[simp]
theorem binding?_nil (tree : Tree α) : tree.binding? [] = some tree.binding := by
  cases tree <;> rfl

theorem binding?_leaf_cons (value : α) (name : String) (path : List String) :
    (leaf value).binding? (name :: path) = none := rfl

theorem binding?_branch_cons (entries : Entries α) (name : String) (path : List String) :
    (branch entries).binding? (name :: path) =
      (entries.lookup name).bind fun tree => tree.binding? path := by
  rw [binding?, find?]
  cases entries.lookup name <;> rfl

/-- Nothing is bound below a value. -/
theorem binding?_append_of_value {front rest : List String} {value : α}
    (held : tree.binding? front = some (.value value)) (further : rest ≠ []) :
    tree.binding? (front ++ rest) = none := by
  induction front generalizing tree with
  | nil =>
      cases tree with
      | leaf other =>
          rcases List.exists_cons_of_ne_nil further with ⟨name, more, rfl⟩
          exact binding?_leaf_cons other name more
      | branch entries => cases held
  | cons name front ih =>
      cases tree with
      | leaf other => exact binding?_leaf_cons other name _
      | branch entries =>
          rw [binding?_branch_cons] at held
          rw [List.cons_append, binding?_branch_cons]
          cases found : entries.lookup name with
          | none => rfl
          | some below =>
              rw [found] at held
              exact ih held

/-- Every tree binds the path that does not lead anywhere. -/
theorem LeavesOpen.ne_nil (isOpen : tree.LeavesOpen path) : path ≠ [] := by
  rintro rfl
  have unbound := isOpen.unbound
  rw [binding?_nil] at unbound
  cases unbound

theorem LeavesOpen.below {entries : Entries α} {name : String}
    (isOpen : (branch entries).LeavesOpen (name :: path))
    (found : entries.lookup name = some tree) : tree.LeavesOpen path where
  unbound := by
    have unbound := isOpen.unbound
    rwa [binding?_branch_cons, found] at unbound
  passable front begins other value := by
    have passable := isOpen.passable (name :: front) (List.cons_prefix_cons.mpr ⟨rfl, begins⟩)
      (by simpa using other) value
    rwa [binding?_branch_cons, found] at passable

theorem LeavesOpen.exists_branch {name : String} (isOpen : tree.LeavesOpen (name :: path)) :
    ∃ entries, tree = branch entries := by
  cases tree with
  | leaf value =>
      exact absurd (binding?_nil _) (isOpen.passable [] List.nil_prefix (List.cons_ne_nil _ _).symm
        value)
  | branch entries => exact ⟨entries, rfl⟩

theorem leavesOpen_empty (name : String) (path : List String) :
    (branch ([] : Entries α)).LeavesOpen (name :: path) where
  unbound := rfl
  passable front _ _ value held := by
    cases front <;> cases held

/-! ## Bindings of merged trees -/

@[simp]
theorem merge_leaf (base : Tree α) (value : α) : base.merge (leaf value) = leaf value := by
  cases base <;> rfl

@[simp]
theorem leaf_merge (value : α) (override : Tree α) : (leaf value).merge override = override := by
  cases override <;> rfl

theorem branch_merge_branch (base override : Entries α) :
    (branch base).merge (branch override) = branch (mergeEntries base override) := by
  rw [merge, mergeEntries]

theorem binding?_mergeEntries_cons (base override : Entries α) (name : String)
    (path : List String) :
    (branch (mergeEntries base override)).binding? (name :: path) =
      match base.lookup name, override.lookup name with
      | some lower, some upper => (lower.merge upper).binding? path
      | some lower, none => lower.binding? path
      | none, some upper => upper.binding? path
      | none, none => none := by
  rw [binding?_branch_cons, lookup_mergeEntries]
  cases base.lookup name <;> cases override.lookup name <;> rfl

/-- What the upper tree binds, the merged tree binds alike. -/
theorem binding?_merge_of_bound {bound : Binding α} (held : override.binding? path = some bound) :
    (base.merge override).binding? path = some bound := by
  induction path generalizing base override with
  | nil =>
      cases override with
      | leaf value => rwa [merge_leaf]
      | branch upper =>
          cases base with
          | leaf value => rwa [leaf_merge]
          | branch lower => rwa [branch_merge_branch]
  | cons name path ih =>
      cases override with
      | leaf value => cases held
      | branch upper =>
          cases base with
          | leaf value => rwa [leaf_merge]
          | branch lower =>
              rw [binding?_branch_cons] at held
              rw [branch_merge_branch, binding?_mergeEntries_cons]
              cases found : upper.lookup name with
              | none =>
                  rw [found] at held
                  cases held
              | some upperBelow =>
                  rw [found] at held
                  cases lower.lookup name with
                  | none => exact held
                  | some lowerBelow => exact ih held

/-- What the upper tree leaves open, the merged tree binds as the lower one does. -/
theorem binding?_merge_of_leavesOpen (isOpen : override.LeavesOpen path) :
    (base.merge override).binding? path = base.binding? path := by
  induction path generalizing base override with
  | nil => exact absurd rfl isOpen.ne_nil
  | cons name path ih =>
      rcases isOpen.exists_branch with ⟨upper, rfl⟩
      cases base with
      | leaf value => rw [leaf_merge, isOpen.unbound, binding?_leaf_cons]
      | branch lower =>
          rw [branch_merge_branch, binding?_mergeEntries_cons, binding?_branch_cons]
          cases found : upper.lookup name with
          | none => cases lower.lookup name <;> rfl
          | some upperBelow =>
              have below := isOpen.below found
              cases lower.lookup name with
              | none => exact below.unbound
              | some lowerBelow => exact ih below

/-- Below a value of the upper tree the merged tree binds nothing. -/
theorem binding?_merge_of_not_leavesOpen (unbound : override.binding? path = none)
    (notOpen : ¬override.LeavesOpen path) : (base.merge override).binding? path = none := by
  obtain ⟨front, begins, other, value, held⟩ : ∃ front, front <+: path ∧ front ≠ path ∧
      ∃ value, override.binding? front = some (.value value) := by
    by_contra passable
    refine notOpen ⟨unbound, fun front begins other value held => ?_⟩
    exact passable ⟨front, begins, other, value, held⟩
  rcases begins with ⟨rest, rfl⟩
  refine binding?_append_of_value (binding?_merge_of_bound held) ?_
  rintro rfl
  exact other (List.append_nil front).symm

/-! ## Merging to no effect -/

theorem isSame_merge_empty (base : Entries α) :
    (branch (mergeEntries base [])).IsSame (branch base) := by
  intro path
  rw [← branch_merge_branch]
  cases path with
  | nil => rfl
  | cons name path => exact binding?_merge_of_leavesOpen (leavesOpen_empty name path)

/-- Laid over a tree that binds no path which it leaves open, a tree is as it is alone. -/
theorem isSame_merge_of_leavesOpen
    (nothing : ∀ path, override.LeavesOpen path → base.binding? path = none) :
    (base.merge override).IsSame override := by
  intro path
  cases held : override.binding? path with
  | some bound => exact binding?_merge_of_bound held
  | none =>
      by_cases isOpen : override.LeavesOpen path
      · rw [binding?_merge_of_leavesOpen isOpen, nothing path isOpen]
      · exact binding?_merge_of_not_leavesOpen held isOpen

theorem isSame_empty_merge (override : Entries α) :
    (branch (mergeEntries [] override)).IsSame (branch override) := by
  rw [← branch_merge_branch]
  refine isSame_merge_of_leavesOpen fun path isOpen => ?_
  cases path with
  | nil => exact absurd rfl isOpen.ne_nil
  | cons name path => rfl

theorem isSame_merge_self (tree : Tree α) : (tree.merge tree).IsSame tree :=
  isSame_merge_of_leavesOpen fun _ isOpen => isOpen.unbound

/-- The same tree on top of the merged tree adds nothing. -/
theorem isSame_merge_merge (base override : Tree α) :
    ((base.merge override).merge override).IsSame (base.merge override) := by
  intro path
  cases held : override.binding? path with
  | some bound => rw [binding?_merge_of_bound held, binding?_merge_of_bound held]
  | none =>
      by_cases isOpen : override.LeavesOpen path
      · exact binding?_merge_of_leavesOpen isOpen
      · rw [binding?_merge_of_not_leavesOpen held isOpen,
          binding?_merge_of_not_leavesOpen held isOpen]

/-- Merging overrides what the upper entries bind and nothing else, and it has no effect if either
side is empty, if both are equal, or if it is repeated. -/
theorem mergeEntries_overrides_what_is_bound (base override : Entries α) :
    (∀ path bound, (branch override).binding? path = some bound →
      (branch (mergeEntries base override)).binding? path = some bound) ∧
    (∀ path, (branch override).LeavesOpen path →
      (branch (mergeEntries base override)).binding? path = (branch base).binding? path) ∧
    (branch (mergeEntries base [])).IsSame (branch base) ∧
    (branch (mergeEntries [] base)).IsSame (branch base) ∧
    (branch (mergeEntries base base)).IsSame (branch base) ∧
    (branch (mergeEntries (mergeEntries base override) override)).IsSame
      (branch (mergeEntries base override)) := by
  refine ⟨?_, ?_, isSame_merge_empty base, isSame_empty_merge base, ?_, ?_⟩
  · intro path bound held
    rw [← branch_merge_branch]
    exact binding?_merge_of_bound held
  · intro path isOpen
    rw [← branch_merge_branch]
    exact binding?_merge_of_leavesOpen isOpen
  · rw [← branch_merge_branch]
    exact isSame_merge_self _
  · rw [← branch_merge_branch, ← branch_merge_branch]
    exact isSame_merge_merge _ _

/-- A `null` on top hides a token, and its neighbour shows through; an empty branch on top takes the
place of a `null`. -/
theorem mergeEntries_overrides_token :
    let base : Entries Json :=
      [("api", branch [("token", leaf (.str "t")), ("timeout", leaf (.int 3))]),
        ("level", leaf .null)]
    let override : Entries Json := [("api", branch [("token", leaf .null)]), ("level", branch [])]
    (branch override).LeavesOpen ["api", "timeout"] ∧
      (branch (mergeEntries base override)).binding? ["api", "token"] = some (.value .null) ∧
      (branch (mergeEntries base override)).binding? ["api", "timeout"] = some (.value (.int 3)) ∧
      (branch (mergeEntries base override)).binding? ["level"] = some .branch := by
  intro base override
  have isOpen : (branch override).LeavesOpen ["api", "timeout"] := by
    refine ⟨rfl, fun front begins other value held => ?_⟩
    rcases List.prefix_cons_iff.mp begins with rfl | ⟨more, rfl, within⟩
    · cases held
    rcases List.prefix_cons_iff.mp within with rfl | ⟨last, rfl, ends⟩
    · cases held
    · exact other (by rw [List.prefix_nil.mp ends])
  rcases mergeEntries_overrides_what_is_bound base override with ⟨overridden, shown, _⟩
  exact ⟨isOpen, overridden _ _ rfl, shown _ isOpen, overridden _ _ rfl⟩

end Tree

end Rulebook
