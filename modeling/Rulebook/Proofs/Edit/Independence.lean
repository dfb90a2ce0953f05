import Mathlib
import Rulebook.Proofs.Edit.Moves
import Rulebook.Proofs.Edit.Run

/-!
# Operations on different actions

Removing an action, giving it another kind and setting one of its fields all go through the actions
of the draft and look at the local ids only. What such an operation makes of one action
(`ActionEdit.reach`) depends on no other action and keeps the local id, so that operations on
different actions may be performed in either order, and the actions that an operation is not meant
for stay as they are and in their order.
-/

namespace Rulebook

/-- An operation on an action, without the id of the action. -/
inductive ActionEdit
  | remove
  | changeType (kind : Json)
  | setField (field : String) (value : Json)

namespace ActionEdit

/-- The operation of the editor for the actions with an id. -/
def on (edit : ActionEdit) (id : Json) : Edit :=
  match edit with
  | remove => .remove id
  | changeType kind => .changeType id kind
  | setField field value => .setField id field value

/-- A kind that is to be set can be looked up: it is neither a list nor an object. -/
def HasName : ActionEdit → Prop
  | changeType kind => Catalog.checkName kind = .ok ()
  | _ => True

/-- What the operation makes of an action that it is meant for. -/
def effect : ActionEdit → ActionDraft → Option ActionDraft
  | remove, _ => none
  | changeType kind, action => some ⟨kind, Catalog.defaultFields kind, action.localId⟩
  | setField field value, action =>
      some { action with fields := action.fields.set field value }

/-- What the operation on the actions with an id makes of an action. -/
def reach (edit : ActionEdit) (id : Json) (action : ActionDraft) : Option ActionDraft :=
  if action.hasId id then edit.effect action else some action

variable {edit first second : ActionEdit} {a b id other : Json} {action after : ActionDraft}

theorem reach_of_not_hasId (other : action.hasId id = false) :
    edit.reach id action = some action := by
  simp [reach, other]

theorem localId_of_effect (made : edit.effect action = some after) :
    after.localId = action.localId := by
  cases edit with
  | remove => cases made
  | changeType kind =>
      cases made
      rfl
  | setField field value =>
      cases made
      rfl

theorem hasId_of_reach (reached : edit.reach id action = some after) :
    after.hasId other = action.hasId other := by
  rw [reach] at reached
  split at reached
  · rw [ActionDraft.hasId, localId_of_effect reached, ActionDraft.hasId]
  · cases reached
    rfl

theorem reach_bind_reach_of_not_hasId (notB : action.hasId b = false) :
    (first.reach a action).bind (second.reach b) = first.reach a action := by
  cases reached : first.reach a action with
  | none => rfl
  | some after =>
      have notBAfter : after.hasId b = false := by
        rw [hasId_of_reach reached, notB]
      rw [Option.bind_some, reach_of_not_hasId notBAfter]

/-- An action without both ids is reached by one of the operations at most. -/
theorem reach_bind_comm (apart : ¬(action.hasId a = true ∧ action.hasId b = true)) :
    (first.reach a action).bind (second.reach b) =
      (second.reach b action).bind (first.reach a) := by
  cases notB : action.hasId b with
  | false =>
      rw [reach_bind_reach_of_not_hasId notB, reach_of_not_hasId notB, Option.bind_some]
  | true =>
      have notA : action.hasId a = false := by
        simpa [notB] using apart
      rw [reach_bind_reach_of_not_hasId notA, reach_of_not_hasId notA, Option.bind_some]

end ActionEdit

namespace Draft

section Reached

variable {draft : Draft} {next : Nat} {id : Json} {edit : ActionEdit}

/-- The draft with every action replaced by what an operation makes of it. -/
def reached (draft : Draft) (edit : ActionEdit) (id : Json) : Draft :=
  { draft with actions := draft.actions.filterMap (edit.reach id) }

theorem removeAction_eq (draft : Draft) (id : Json) :
    draft.removeAction id = draft.reached .remove id := by
  have same : (draft.actions.filter fun action => !action.hasId id) =
      draft.actions.filterMap (ActionEdit.remove.reach id) := by
    rw [← List.filterMap_eq_filter]
    apply List.filterMap_congr
    intro action _
    cases has : action.hasId id <;>
      simp [ActionEdit.reach, ActionEdit.effect, Option.guard, has]
  rw [removeAction, same, reached]

theorem mapAction_eq (draft : Draft) (id : Json) {change : ActionDraft → ActionDraft}
    (effect : ∀ action, edit.effect action = some (change action)) :
    draft.mapAction id change = draft.reached edit id := by
  have same : (draft.actions.map fun action => if action.hasId id then change action else action) =
      draft.actions.filterMap (edit.reach id) := by
    rw [← List.filterMap_eq_map]
    apply List.filterMap_congr
    intro action _
    cases has : action.hasId id <;> simp [ActionEdit.reach, effect, has]
  rw [mapAction, same, reached]

theorem reached_of_absent (absent : ∀ action ∈ draft.actions, action.hasId id = false) :
    draft.reached edit id = draft := by
  have same : draft.actions.filterMap (edit.reach id) = draft.actions.filterMap some := by
    apply List.filterMap_congr
    intro action mem
    exact ActionEdit.reach_of_not_hasId (absent action mem)
  rw [reached, same, List.filterMap_some]

/-- An operation goes through the actions one by one. It fails only for a kind that cannot be looked
up, and only if there is an action that is to have it. -/
theorem apply_on_eq_ok_iff {after : Draft × Nat} :
    draft.apply next (edit.on id) = .ok after ↔
      ((∃ action ∈ draft.actions, action.hasId id = true) → edit.HasName) ∧
        after = (draft.reached edit id, next) := by
  cases edit with
  | remove =>
      rw [ActionEdit.on, apply, removeAction_eq, Except.ok.injEq, eq_comm]
      exact (and_iff_right fun _ => trivial).symm
  | setField field value =>
      have changed : draft.setActionField id field value =
          draft.reached (.setField field value) id :=
        draft.mapAction_eq id fun _ => rfl
      rw [ActionEdit.on, apply, changed, Except.ok.injEq, eq_comm]
      exact (and_iff_right fun _ => trivial).symm
  | changeType kind =>
      have changed : draft.changeActionType id kind = draft.reached (.changeType kind) id :=
        draft.mapAction_eq id fun _ => rfl
      rw [ActionEdit.on, apply, changed]
      split
      · next present =>
        rw [List.any_eq_true] at present
        rw [Scan.map_eq_ok_iff, forall_prop_of_true present]
        constructor
        · rintro ⟨_, named, rfl⟩
          exact ⟨named, rfl⟩
        · rintro ⟨named, rfl⟩
          exact ⟨(), named, rfl⟩
      · next absent =>
        rw [List.any_eq_true] at absent
        have unreached : draft.reached (.changeType kind) id = draft := by
          apply reached_of_absent
          intro action mem
          rw [Bool.eq_false_iff]
          intro has
          exact absent ⟨action, mem, has⟩
        rw [unreached, Except.ok.injEq, eq_comm]
        exact (and_iff_right fun present => absurd present absent).symm

theorem apply_on_of_hasName (edit : ActionEdit) (named : edit.HasName) :
    draft.apply next (edit.on id) = .ok (draft.reached edit id, next) :=
  apply_on_eq_ok_iff.mpr ⟨fun _ => named, rfl⟩

end Reached

/-! ## Two operations -/

section Two

variable {draft : Draft} {next : Nat} {a b : Json} {first second : ActionEdit}

/-- No action of the draft has both ids. -/
def TellsApart (draft : Draft) (a b : Json) : Prop :=
  ∀ action ∈ draft.actions, ¬(action.hasId a = true ∧ action.hasId b = true)

theorem TellsApart.symm (apart : draft.TellsApart a b) : draft.TellsApart b a := by
  rintro action mem ⟨hasB, hasA⟩
  exact apart action mem ⟨hasA, hasB⟩

theorem TellsApart.reached_reached (apart : draft.TellsApart a b) :
    (draft.reached first a).reached second b = (draft.reached second b).reached first a := by
  have same : (draft.actions.filterMap (first.reach a)).filterMap (second.reach b) =
      (draft.actions.filterMap (second.reach b)).filterMap (first.reach a) := by
    rw [List.filterMap_filterMap, List.filterMap_filterMap]
    apply List.filterMap_congr
    intro action mem
    exact ActionEdit.reach_bind_comm (apart action mem)
  simp only [reached, same]

/-- An operation for one id neither adds nor takes away actions with the other. -/
theorem TellsApart.exists_reached_iff (apart : draft.TellsApart a b) :
    (∃ action ∈ (draft.reached first a).actions, action.hasId b = true) ↔
      ∃ action ∈ draft.actions, action.hasId b = true := by
  constructor
  · rintro ⟨after, mem, hasB⟩
    rcases List.mem_filterMap.mp mem with ⟨action, actionMem, made⟩
    rw [ActionEdit.hasId_of_reach made] at hasB
    exact ⟨action, actionMem, hasB⟩
  · rintro ⟨action, mem, hasB⟩
    have notA : action.hasId a = false := by
      simpa [hasB] using apart action mem
    refine ⟨action, List.mem_filterMap.mpr ⟨action, mem, ?_⟩, hasB⟩
    exact ActionEdit.reach_of_not_hasId notA

/-- Performs one operation after the other. -/
def applyInTurn (draft : Draft) (next : Nat) (first second : Edit) :
    Except Failure (Draft × Nat) :=
  (draft.apply next first).bind fun after => after.1.apply after.2 second

theorem TellsApart.applyInTurn_on_eq_ok_iff (apart : draft.TellsApart a b)
    {after : Draft × Nat} :
    draft.applyInTurn next (first.on a) (second.on b) = .ok after ↔
      ((∃ action ∈ draft.actions, action.hasId a = true) → first.HasName) ∧
        ((∃ action ∈ draft.actions, action.hasId b = true) → second.HasName) ∧
        after = ((draft.reached first a).reached second b, next) := by
  rw [applyInTurn, Scan.bind_eq_ok_iff]
  constructor
  · rintro ⟨between, performed, performedNext⟩
    rcases apply_on_eq_ok_iff.mp performed with ⟨named, rfl⟩
    rcases apply_on_eq_ok_iff.mp performedNext with ⟨namedNext, rfl⟩
    rw [apart.exists_reached_iff] at namedNext
    exact ⟨named, namedNext, rfl⟩
  · rintro ⟨named, namedNext, rfl⟩
    refine ⟨(draft.reached first a, next), apply_on_eq_ok_iff.mpr ⟨named, rfl⟩, ?_⟩
    apply apply_on_eq_ok_iff.mpr
    rw [apart.exists_reached_iff]
    exact ⟨namedNext, rfl⟩

end Two

/-! ## What an operation leaves as it is -/

/-- Every action has kept its place and its local id; those with an id are changed in a given way,
and the others are the same. -/
def ChangesInPlace (id : Json) (changed : ActionDraft → ActionDraft → Prop)
    (before after : List ActionDraft) : Prop :=
  List.Forall₂
    (fun old new => new.localId = old.localId ∧
      if old.hasId id = true then changed old new else new = old)
    before after

section Rest

variable {draft : Draft} {next : Nat} {a b id : Json} {edit : ActionEdit}

theorem filter_reached (draft : Draft) (edit : ActionEdit) (id : Json) :
    ((draft.reached edit id).actions.filter fun action => !action.hasId id) =
      draft.actions.filter fun action => !action.hasId id := by
  rw [reached, List.filter_filterMap, ← List.filterMap_eq_filter]
  apply List.filterMap_congr
  intro action _
  cases has : action.hasId id with
  | false => simp [ActionEdit.reach_of_not_hasId has, Option.guard, has]
  | true =>
      cases made : edit.reach id action with
      | none => simp [Option.guard, has]
      | some after => simp [Option.guard, ActionEdit.hasId_of_reach made, has]

theorem changesInPlace_reached {change : ActionDraft → ActionDraft}
    {changed : ActionDraft → ActionDraft → Prop}
    (effect : ∀ action, edit.effect action = some (change action))
    (each : ∀ action, changed action (change action)) :
    ChangesInPlace id changed draft.actions (draft.reached edit id).actions := by
  rw [← draft.mapAction_eq id effect, mapAction, ChangesInPlace, List.forall₂_map_right_iff,
    List.forall₂_same]
  intro action _
  cases has : action.hasId id with
  | false => simp
  | true => simp [each action, ActionEdit.localId_of_effect (effect action)]

/-- Operations on two actions do not touch each other's action, and each changes nothing else than
its own. The operations are any that remove an action, change its kind or set one of its fields. -/
structure EditsIndependently (draft : Draft) (next : Nat) (a b : Json) : Prop where
  commute : ∀ (first second : ActionEdit) (after : Draft × Nat),
    draft.applyInTurn next (first.on a) (second.on b) = .ok after ↔
      draft.applyInTurn next (second.on b) (first.on a) = .ok after
  performed : ∀ first second : ActionEdit, first.HasName → second.HasName →
    ∃ after, draft.applyInTurn next (first.on a) (second.on b) = .ok after
  others : ∀ (edit : ActionEdit) (after : Draft × Nat),
    draft.apply next (edit.on a) = .ok after →
      after = ({ draft with actions := after.1.actions }, next) ∧
        (after.1.actions.filter fun action => !action.hasId a) =
          draft.actions.filter fun action => !action.hasId a
  setField : ∀ field text : String, ∃ after,
    draft.apply next (.setField a field (.str text)) = .ok (after, next) ∧
      ChangesInPlace a
        (fun old new => new.type = old.type ∧ new.text field = text.toList ∧
          ∀ other, other ≠ field → new.text other = old.text other)
        draft.actions after.actions
  changeType : ∀ kind, (ActionEdit.changeType kind).HasName → ∃ after,
    draft.apply next (.changeType a kind) = .ok (after, next) ∧
      ChangesInPlace a (fun _ new => new.type = kind ∧ new.fields = Catalog.defaultFields kind)
        draft.actions after.actions

theorem TellsApart.editsIndependently (apart : draft.TellsApart a b) (next : Nat) :
    draft.EditsIndependently next a b where
  commute := by
    intro first second after
    rw [apart.applyInTurn_on_eq_ok_iff, apart.symm.applyInTurn_on_eq_ok_iff,
      apart.reached_reached]
    exact and_left_comm
  performed := by
    intro first second named namedNext
    refine ⟨_, apart.applyInTurn_on_eq_ok_iff.mpr ⟨?_, ?_, rfl⟩⟩
    · exact fun _ => named
    · exact fun _ => namedNext
  others := by
    intro edit after performed
    rcases apply_on_eq_ok_iff.mp performed with ⟨_, rfl⟩
    exact ⟨rfl, draft.filter_reached edit a⟩
  setField := by
    intro field text
    refine ⟨draft.reached (.setField field (.str text)) a,
      apply_on_of_hasName (.setField field (.str text)) trivial, ?_⟩
    apply changesInPlace_reached fun _ => rfl
    intro action
    refine ⟨rfl, action.text_set_self field text, ?_⟩
    intro other different
    exact action.text_set_of_ne different _
  changeType := by
    intro kind named
    refine ⟨draft.reached (.changeType kind) a, apply_on_of_hasName (.changeType kind) named, ?_⟩
    apply changesInPlace_reached fun _ => rfl
    intro action
    exact ⟨rfl, rfl⟩

end Rest

theorem tellsApart_of_ne {a b : String} (different : a ≠ b) (draft : Draft) :
    draft.TellsApart (.str a) (.str b) := by
  rintro action _ ⟨hasA, hasB⟩
  rw [ActionDraft.hasId_str_iff] at hasA hasB
  rw [hasA] at hasB
  exact different (Json.str.inj hasB)

/-- Operations on actions with different local ids are independent: either order gives the same
draft, and each leaves all other actions, their order and the rest of the draft as they are. -/
theorem editsIndependently_of_ne {a b : String} (different : a ≠ b) (draft : Draft) (next : Nat) :
    draft.EditsIndependently next (.str a) (.str b) :=
  (tellsApart_of_ne different draft).editsIndependently next

theorem followUp_editsIndependently :
    "act_1" ≠ "act_2" ∧ followUp.EditsIndependently 4 (.str "act_1") (.str "act_2") ∧
      (followUp.applyInTurn 4 (.changeType (.str "act_2") (.str "update_pipeline"))
          (.remove (.str "act_1"))).map (fun after => after.1.actions) =
        .ok [⟨.str "update_pipeline", [("stage", .str "")], .str "act_2"⟩,
          ⟨.str " ", [], .str "act_3"⟩] := by
  have different : "act_1" ≠ "act_2" := by
    simp
  exact ⟨different, editsIndependently_of_ne different followUp 4, rfl⟩

end Draft

end Rulebook
