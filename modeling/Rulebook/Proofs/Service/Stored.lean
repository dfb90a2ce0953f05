import Mathlib
import Rulebook.Proofs.Compile.Conformance

/-!
# Rules that a backend gives back

A backend keeps the payload of a rule together with the identity of the rule and gives both back as
one object. Writing leaves out parameters that are `null` and conditions that are empty, and reading
repairs what is missing or misshapen. The two fit together on the rules of the *repaired* shape:
texts where texts are due, a switch that is on or off, no empty conditions, and no action whose
parameters are `null`. Reading gives nothing else, and neither does compiling, the identity apart.
-/

namespace Rulebook

namespace Json

/-- The value is a text, blank or not. -/
def IsText (value : Json) : Prop :=
  ∃ text : String, value = .str text

theorem isText_str (text : String) : IsText (.str text) :=
  ⟨text, rfl⟩

theorem IsTidyText.isText {value : Json} (tidy : value.IsTidyText) : value.IsText := by
  rcases tidy with ⟨text, rfl, _⟩
  exact isText_str text

/-- A text is read as itself, whether it counts as filled in or not. -/
theorem IsText.str_filledText {value : Json} (isText : value.IsText) :
    .str (String.ofList value.filledText) = value := by
  rcases isText with ⟨text, rfl⟩
  rw [filledText_str, String.ofList_toList]

theorem IsText.str_display {value : Json} (isText : value.IsText) :
    .str (String.ofList value.display) = value := by
  rcases isText with ⟨text, rfl⟩
  rw [display, String.ofList_toList]

end Json

/-! ## Triggers -/

/-- The trigger has the shape that reading gives: its type is a text, and conditions that are there
hold something. -/
structure Trigger.IsRepaired (trigger : Trigger) : Prop where
  type : trigger.type.IsText
  conditions : trigger.conditions = .null ∨ ∃ first rest, trigger.conditions = .obj (first :: rest)

namespace Trigger

theorem isRepaired_ofPayload (payload : Json) : (ofPayload payload).IsRepaired where
  type := Json.isText_str _
  conditions := by
    simp only [ofPayload]
    split
    · next first rest _ => exact Or.inr ⟨first, rest, rfl⟩
    · exact Or.inl rfl

/-- What a payload leaves out is `null`, so that all parts of the trigger can be looked up in it. -/
theorem IsRepaired.exists_toPayload {trigger : Trigger} (repaired : trigger.IsRepaired) :
    ∃ payload, trigger.toPayload = .ok payload ∧ payload.field "type" = trigger.type ∧
      payload.field "params" = trigger.params ∧
      payload.field "conditions" = trigger.conditions := by
  rcases trigger with ⟨type, params, conditions⟩
  rcases repaired.conditions with rfl | ⟨first, rest, rfl⟩
  · refine ⟨_, rfl, ?_⟩
    by_cases none : params = .null <;>
      simp [Json.field, Json.fields, Json.Fields.get, Json.Fields.get?, List.lookup, none]
  · refine ⟨_, rfl, ?_⟩
    by_cases none : params = .null <;>
      simp [Json.field, Json.fields, Json.Fields.get, Json.Fields.get?, List.lookup, none]

theorem IsRepaired.comesBack {trigger : Trigger} (repaired : trigger.IsRepaired) :
    ∃ payload, trigger.toPayload = .ok payload ∧ ofPayload payload = trigger := by
  rcases repaired.exists_toPayload with ⟨payload, written, type, params, conditions⟩
  refine ⟨payload, written, ?_⟩
  rw [ofPayload, type, params, conditions, repaired.type.str_filledText]
  rcases trigger with ⟨type, params, conditions⟩
  rcases repaired.conditions with rfl | ⟨first, rest, rfl⟩ <;> rfl

end Trigger

/-! ## Actions -/

/-- The action has the shape that reading gives: its type is a text and its parameters are there. -/
structure Action.IsRepaired (action : Action) : Prop where
  type : action.type.IsText
  params : action.params ≠ .null

namespace Action

theorem isRepaired_of_ofPayload? {payload : Json} {action : Action}
    (read : ofPayload? payload = some action) : action.IsRepaired := by
  cases payload with
  | obj fields =>
      cases read
      refine ⟨Json.isText_str _, ?_⟩
      simp only
      split
      · simp
      · next present => exact present
  | _ => cases read

theorem IsRepaired.comesBack {action : Action} (repaired : action.IsRepaired) :
    ofPayload? action.toPayload = some action := by
  have type : Json.Fields.get [("type", action.type), ("params", action.params)] "type" =
      action.type := rfl
  have params : Json.Fields.get [("type", action.type), ("params", action.params)] "params" =
      action.params := rfl
  rw [toPayload, ofPayload?, type, params, repaired.type.str_filledText]
  split
  · next none => exact absurd none repaired.params
  · rfl

/-- Compiling never leaves the parameters of an action out: a blank field of an unknown kind stands
for an empty object. -/
theorem isRepaired_of_isCanonical {action : Action} (canonical : action.IsCanonical) :
    action.IsRepaired := by
  rcases canonical with ⟨kind, typed, _, params⟩
  refine ⟨⟨kind, typed⟩, ?_⟩
  intro none
  rw [none, Json.AreParams] at params
  split at params
  · exact absurd params (by decide)
  · rcases params with ⟨_, impossible, _⟩
    cases impossible

end Action

/-! ## Rules -/

/-- The rule has the shape that reading gives: texts for its name and, if it has one, its identity,
and a switch that is on or off. -/
structure Rule.IsRepaired (rule : Rule) : Prop where
  id : rule.id = .null ∨ rule.id.IsText
  name : rule.name.IsText
  active : ∃ on, rule.active = .bool on
  trigger : rule.trigger.IsRepaired
  actions : ∀ action ∈ rule.actions, action.IsRepaired

namespace Rule

/-- What a backend keeps of a rule: the fields of its payload, and its identity if it has one. -/
def stored (rule : Rule) : Except Failure Json :=
  rule.payloadFields.map fun fields =>
    .obj (fields ++ if rule.id = .null then [] else [("id", rule.id)])

/-- Reading what a backend keeps of the rule gives the rule. -/
def ComesBack (rule : Rule) : Prop :=
  ∃ payload, rule.stored = .ok payload ∧ ofPayload payload = rule

theorem isRepaired_ofPayload (payload : Json) : (ofPayload payload).IsRepaired where
  id := by
    simp only [ofPayload]
    split
    · exact Or.inl rfl
    · exact Or.inr (Json.isText_str _)
  name := Json.isText_str _
  active := ⟨_, rfl⟩
  trigger := Trigger.isRepaired_ofPayload _
  actions := by
    intro action mem
    simp only [ofPayload] at mem
    split at mem
    · rcases List.mem_filterMap.mp mem with ⟨item, _, read⟩
      exact Action.isRepaired_of_ofPayload? read
    · cases mem

theorem IsRepaired.exists_stored {rule : Rule} (repaired : rule.IsRepaired) :
    ∃ payload, rule.stored = .ok payload ∧ payload.field "id" = rule.id ∧
      payload.field "name" = rule.name ∧ payload.field "active" = rule.active ∧
      Trigger.ofPayload (payload.field "trigger") = rule.trigger ∧
      payload.field "actions" = .arr (rule.actions.map Action.toPayload) := by
  rcases repaired.trigger.comesBack with ⟨trigger, written, read⟩
  rw [stored, payloadFields, written]
  refine ⟨_, rfl, ?_⟩
  by_cases none : rule.id = .null <;>
    simp [Json.field, Json.fields, Json.Fields.get, Json.Fields.get?, List.lookup, none, read]

theorem IsRepaired.comesBack {rule : Rule} (repaired : rule.IsRepaired) : rule.ComesBack := by
  rcases repaired.exists_stored with ⟨payload, written, id, name, active, trigger, actions⟩
  refine ⟨payload, written, ?_⟩
  have items : (rule.actions.map Action.toPayload).filterMap Action.ofPayload? = rule.actions := by
    rw [List.filterMap_map]
    exact (List.filterMap_congr fun action mem => (repaired.actions action mem).comesBack).trans
      List.filterMap_some
  have readId : (ofPayload payload).id = rule.id := by
    simp only [ofPayload, id]
    split
    · next none => exact none.symm
    · next present => exact (repaired.id.resolve_left present).str_display
  have readActive : (ofPayload payload).active = rule.active := by
    rcases repaired.active with ⟨on, held⟩
    simp only [ofPayload, active, held]
    cases on <;> rfl
  have readName : (ofPayload payload).name = rule.name := by
    simp only [ofPayload, name, repaired.name.str_filledText]
  have readActions : (ofPayload payload).actions = rule.actions := by
    simp only [ofPayload, actions, items]
  exact (Rule.mk.injEq ..).mpr ⟨readId, readName, readActive, trigger, readActions⟩

theorem ComesBack.isRepaired {rule : Rule} (comesBack : rule.ComesBack) : rule.IsRepaired := by
  rcases comesBack with ⟨payload, _, read⟩
  exact read ▸ isRepaired_ofPayload payload

/-- The identity is the only part of a compiled rule that can have another shape than reading
gives. -/
theorem IsCanonical.isRepaired_iff {rule : Rule} (canonical : rule.IsCanonical) :
    rule.IsRepaired ↔ rule.id = .null ∨ rule.id.IsText := by
  refine ⟨IsRepaired.id, ?_⟩
  intro id
  refine ⟨id, canonical.name.isText, canonical.active, ⟨canonical.triggerType.isText, ?_⟩,
    fun action mem => Action.isRepaired_of_isCanonical (canonical.actions action mem)⟩
  rcases canonical.conditions with none | ⟨fields, held, filled, _⟩
  · exact Or.inl none
  · rcases List.exists_cons_of_ne_nil filled with ⟨first, rest, rfl⟩
    exact Or.inr ⟨first, rest, held⟩

/-- Whatever is read from a payload comes back from a backend that keeps it, and so does every
compiled rule whose identity is a text or missing, and no other. -/
theorem comesBack_of_read_or_compiled :
    (∀ payload, (ofPayload payload).ComesBack) ∧
    ∀ (draft : Draft) (rule : Rule), draft.compile = .ok rule →
      (rule.ComesBack ↔ rule.id = .null ∨ rule.id.IsText) := by
  constructor
  · exact fun payload => (isRepaired_ofPayload payload).comesBack
  · intro draft rule compiled
    rw [← (Draft.isCanonical_of_compile compiled).isRepaired_iff]
    exact ⟨ComesBack.isRepaired, IsRepaired.comesBack⟩

theorem audienceRule_comesBack :
    ({ Draft.audience with id := .str "" } : Draft).compile =
        .ok { Draft.audienceRule with id := .str "" } ∧
      ({ Draft.audienceRule with id := .str "" } : Rule).ComesBack := by
  have compiled : ({ Draft.audience with id := .str "" } : Draft).compile =
      .ok { Draft.audienceRule with id := .str "" } := by
    decide +kernel
  exact ⟨compiled, (comesBack_of_read_or_compiled.2 _ _ compiled).mpr (Or.inr (Json.isText_str ""))⟩

end Rule

end Rulebook
