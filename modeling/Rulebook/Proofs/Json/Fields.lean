import Mathlib
import Rulebook.Json.Basic

/-!
# Objects with distinct names

Where no name occurs twice, an object is the set of its bindings: looking a name up finds its
binding, binding the names one after the other gives the object back, and picking the fields of a
catalog of names out of it, in the order of the catalog, only reorders it.
-/

namespace Rulebook.Json.Fields

/-- No name is bound twice. -/
def Distinct (fields : Fields) : Prop :=
  (fields.map Prod.fst).Nodup

instance (fields : Fields) : Decidable fields.Distinct :=
  inferInstanceAs (Decidable (fields.map Prod.fst).Nodup)

theorem distinct_cons {name : String} {value : Json} {fields : Fields} :
    Distinct ((name, value) :: fields) ↔ (∀ other, (name, other) ∉ fields) ∧ fields.Distinct := by
  simp [Distinct]

theorem mem_of_get? {fields : Fields} {name : String} {value : Json}
    (found : fields.get? name = some value) : (name, value) ∈ fields := by
  rcases List.lookup_eq_some_iff.mp found with ⟨before, after, rfl, _⟩
  simp

theorem get?_of_mem {fields : Fields} (distinct : fields.Distinct) {name : String} {value : Json}
    (mem : (name, value) ∈ fields) : fields.get? name = some value := by
  induction fields with
  | nil => simp at mem
  | cons first rest ih =>
      rcases first with ⟨other, held⟩
      rw [distinct_cons] at distinct
      rcases List.mem_cons.mp mem with same | later
      · cases same
        simp [get?]
      · have different : (name == other) = false := by
          rw [beq_eq_false_iff_ne]
          rintro rfl
          exact distinct.1 value later
        rw [get?, List.lookup_cons, different]
        exact ih distinct.2 later

theorem get?_eq_none_iff {fields : Fields} {name : String} :
    fields.get? name = none ↔ ∀ value, (name, value) ∉ fields := by
  constructor
  · intro missing value mem
    have := List.lookup_eq_none_iff.mp missing (name, value) mem
    simp at this
  · intro absent
    cases found : fields.get? name with
    | none => rfl
    | some value => exact absurd (mem_of_get? found) (absent value)

theorem get?_set_of_ne {fields : Fields} {name other : String} (different : other ≠ name)
    (value : Json) : (fields.set name value).get? other = fields.get? other := by
  induction fields with
  | nil => simp [set, get?, List.lookup, beq_false_of_ne different]
  | cons first rest ih =>
      rcases first with ⟨held, old⟩
      rw [set]
      split
      · next same =>
        subst same
        simp [get?, List.lookup, beq_false_of_ne different]
      · simp only [get?, List.lookup] at ih ⊢
        rw [ih]

theorem get?_set_self (fields : Fields) (name : String) (value : Json) :
    (fields.set name value).get? name = some value := by
  induction fields with
  | nil => simp [set, get?]
  | cons first rest ih =>
      rcases first with ⟨held, old⟩
      rw [set]
      split
      · simp [get?]
      · next different =>
        rw [get?, List.lookup_cons, beq_false_of_ne (Ne.symm different)]
        exact ih

theorem has_of_mem {fields : Fields} {name : String} {value : Json} (mem : (name, value) ∈ fields) :
    fields.has name = true := by
  rw [has, Option.isSome_iff_ne_none]
  intro missing
  exact get?_eq_none_iff.mp missing value mem

/-- Giving a field a value takes no field away. -/
theorem has_set_of_has {fields : Fields} {name other : String} {value : Json}
    (held : fields.has other = true) : (fields.set name value).has other = true := by
  by_cases same : other = name
  · rw [has, same, get?_set_self]
    rfl
  · rwa [has, get?_set_of_ne same]

theorem set_of_not_mem {fields : Fields} {name : String} (value : Json)
    (absent : ∀ other, (name, other) ∉ fields) :
    fields.set name value = fields ++ [(name, value)] := by
  induction fields with
  | nil => rfl
  | cons first rest ih =>
      rcases first with ⟨other, held⟩
      have different : other ≠ name := by
        rintro rfl
        exact absent held List.mem_cons_self
      have later : ∀ other, (name, other) ∉ rest := fun other mem =>
        absent other (List.mem_cons_of_mem _ mem)
      simp [set, different, ih later]

/-- Binding distinct names one after the other gives the bindings themselves. -/
theorem ofBindings_of_distinct {bindings : Fields} (distinct : bindings.Distinct) :
    ofBindings bindings = bindings := by
  -- The fields bound so far stand in front, and none of them is bound again.
  have step : ∀ (later bound : Fields), (bound ++ later).Distinct →
      later.foldl (fun fields binding => fields.set binding.1 binding.2) bound =
        bound ++ later := by
    intro later
    induction later with
    | nil => simp
    | cons first rest ih =>
        intro bound apart
        rcases first with ⟨name, value⟩
        have absent : ∀ other, (name, other) ∉ bound := by
          intro other mem
          rw [Distinct, List.map_append, List.nodup_append] at apart
          exact apart.2.2 name (List.mem_map_of_mem mem) name (by simp) rfl
        simp only [List.foldl_cons, set_of_not_mem value absent]
        rw [ih (bound ++ [(name, value)]) (by simpa using apart)]
        simp
  exact step bindings [] distinct

/-- The fields of the given names, in the order of the names. -/
def pick (names : List String) (fields : Fields) : Fields :=
  names.filterMap fun name => (fields.get? name).map fun value => (name, value)

/-- Picking by the labels of items is going through the items. -/
theorem filterMap_eq_pick {ι : Type} (label : ι → String) (items : List ι) (fields : Fields) :
    (items.filterMap fun item => (fields.get? (label item)).map fun value => (label item, value)) =
      fields.pick (items.map label) := by
  rw [pick, List.filterMap_map]
  rfl

theorem mem_pick {names : List String} {fields : Fields} (distinct : fields.Distinct)
    {name : String} {value : Json} :
    (name, value) ∈ fields.pick names ↔ name ∈ names ∧ (name, value) ∈ fields := by
  simp only [pick, List.mem_filterMap, Option.map_eq_some_iff]
  constructor
  · rintro ⟨other, mem, held, found, same⟩
    cases same
    exact ⟨mem, mem_of_get? found⟩
  · rintro ⟨listed, mem⟩
    exact ⟨name, listed, value, get?_of_mem distinct mem, rfl⟩

theorem names_pick_sublist (names : List String) (fields : Fields) :
    ((fields.pick names).map Prod.fst).Sublist names := by
  induction names with
  | nil => simp [pick]
  | cons first rest ih =>
      cases found : fields.get? first with
      | none =>
          simp only [pick, List.filterMap_cons, found, Option.map_none] at ih ⊢
          exact ih.cons first
      | some value =>
          simp only [pick, List.filterMap_cons, found, Option.map_some, List.map_cons] at ih ⊢
          exact ih.cons_cons first

/-- Picking out all names of an object reorders it. -/
theorem pick_perm {names : List String} {fields : Fields} (distinct : fields.Distinct)
    (once : names.Nodup) (listed : ∀ field ∈ fields, field.1 ∈ names) :
    (fields.pick names).Perm fields := by
  have nodupPick : (fields.pick names).Nodup :=
    List.Nodup.of_map Prod.fst (once.sublist (names_pick_sublist names fields))
  have nodupFields : fields.Nodup := List.Nodup.of_map Prod.fst distinct
  rw [List.perm_ext_iff_of_nodup nodupPick nodupFields]
  rintro ⟨name, value⟩
  rw [mem_pick distinct]
  exact and_iff_right_of_imp fun mem => listed (name, value) mem

end Rulebook.Json.Fields
