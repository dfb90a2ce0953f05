import Mathlib
import Rulebook.Proofs.Compile.Expansion
import Rulebook.Proofs.Compile.Readable
import Rulebook.Proofs.Edit.Moves

/-!
# Editing without typing JSON

A rule that is opened for editing shows its JSON values as JSON texts, or as blank fields where a
value cannot be written, and a new action starts with JSON texts. No operation of the editor spoils
a text that it does not type itself. So all JSON texts of a draft can be read after any run of
operations that type none, and compiling the draft blames none of them.
-/

namespace Rulebook

/-- The operation does not type a JSON text: it sets no field of JSON text and puts no foreign
actions in place. -/
def Edit.TypesNoJson : Edit → Prop
  | .setField _ field _ => field ∉ Catalog.jsonFields
  | .setTriggerParams _ | .setActions _ => False
  | _ => True

namespace Draft

/-- Performs one operation on a draft and the next free number. One that fails changes nothing. -/
def perform (state : Draft × Nat) (edit : Edit) : Draft × Nat :=
  match state.1.apply state.2 edit with
  | .ok after => after
  | .error _ => state

/-- Performs operations one after the other. -/
def edited (state : Draft × Nat) (edits : List Edit) : Draft × Nat :=
  edits.foldl perform state

end Draft

/-! ## Texts that the editor writes -/

/-- What a JSON field shows is JSON, whatever the value. -/
theorem exists_jsonFieldText (value : Json) :
    ∃ text, jsonFieldText value = .str text ∧ Json.IsReadable text.toList := by
  by_cases writable : value.isWritable = true
  · rcases Json.exists_reads Json.pretty_isReadable value writable with ⟨read, reads⟩
    refine ⟨String.ofList (value.print Json.pretty), by rw [jsonFieldText, if_pos writable], read, ?_⟩
    rw [String.toList_ofList]
    exact reads.parseTyped_print
  · exact ⟨"", by rw [jsonFieldText, if_neg writable], Json.isReadable_nil⟩

theorem Param.exists_fieldText {param : Param} (shape : param.shape = .json) (value : Json) :
    ∃ text, param.fieldText value = .str text ∧ Json.IsReadable text.toList := by
  cases value with
  | null =>
      simp only [fieldText, shape]
      exact exists_jsonFieldText _
  | _ =>
      simp only [fieldText, shape]
      exact exists_jsonFieldText _

theorem Catalog.default_of_json :
    ∀ entry ∈ actionTypes, ∀ param ∈ entry.params, param.shape = .json →
      param.default = unknownParams.default := by
  decide

theorem Template.triggerParams_eq : ∀ template ∈ all, template.triggerParams = "" := by
  decide

theorem Catalog.isReadable_default : Json.IsReadable unknownParams.default.toList :=
  ⟨.obj [], rfl⟩

namespace ActionDraft

/-- An action whose JSON fields hold readable texts. -/
theorem isReadable_of_fields {action : ActionDraft}
    (each : ∀ field ∈ action.fields, field.1 ∈ Catalog.jsonFields →
      ∃ text, field.2 = .str text ∧ Json.IsReadable text.toList) : action.IsReadable := by
  intro field json
  cases found : action.fields.get? field with
  | none =>
      have absent : action.text field = [] := by simp [text, Json.Fields.get, found]
      exact absent ▸ Json.isReadable_nil
  | some value =>
      rcases each (field, value) (Json.Fields.mem_of_get? found) json with ⟨shown, rfl, readable⟩
      rwa [text_of_get? found]

/-- An action with one field for each parameter of its kind. -/
theorem isReadable_of_params {entry : ActionType} (listed : entry ∈ Catalog.actionTypes)
    {give : Param → Json}
    (each : ∀ param ∈ entry.params, param.shape = .json →
      ∃ text, give param = .str text ∧ Json.IsReadable text.toList) (type id : Json) :
    IsReadable ⟨type, entry.params.map fun param => (param.field, give param), id⟩ := by
  apply isReadable_of_fields
  intro field mem json
  rcases List.mem_map.mp mem with ⟨param, paramMem, rfl⟩
  exact each param paramMem ((Catalog.field_mem_jsonFields_iff entry listed param paramMem).mp json)

theorem isReadable_default (kind id : Json) : IsReadable ⟨kind, Catalog.defaultFields kind, id⟩ := by
  rw [Catalog.defaultFields]
  cases known : Catalog.actionTypeOf? kind with
  | none =>
      apply isReadable_of_fields
      intro field mem _
      rw [List.mem_singleton] at mem
      exact ⟨_, by rw [mem], Catalog.isReadable_default⟩
  | some entry =>
      have listed : entry ∈ Catalog.actionTypes := by
        cases kind with
        | str text => exact Catalog.mem_of_actionType? known
        | _ => cases known
      apply isReadable_of_params listed
      intro param mem shape
      exact ⟨_, rfl, Catalog.default_of_json entry listed param mem shape ▸ Catalog.isReadable_default⟩

theorem isReadable_ofAction (id : Json) (action : Action) : (ofAction id action).IsReadable := by
  rw [ofAction, textOr]
  generalize (if action.type.isTruthy then String.ofList action.type.display
    else Catalog.defaultActionKind) = kind
  cases known : Catalog.actionType? kind with
  | none =>
      apply isReadable_of_fields
      intro field mem _
      simp only [Action.draftFields, Catalog.actionTypeOf?, known, List.mem_singleton] at mem
      rw [mem]
      exact exists_jsonFieldText _
  | some entry =>
      rw [draftFields_eq known]
      apply isReadable_of_params (Catalog.mem_of_actionType? known)
      intro param _ shape
      exact param.exists_fieldText shape _

theorem text_set_self (action : ActionDraft) (field text : String) :
    ActionDraft.text { action with fields := action.fields.set field (.str text) } field =
      text.toList :=
  text_of_get? (Json.Fields.get?_set_self action.fields field (.str text))

theorem text_set_of_ne (action : ActionDraft) {field other : String} (different : other ≠ field)
    (value : Json) :
    ActionDraft.text { action with fields := action.fields.set field value } other =
      action.text other := by
  simp only [text, Json.Fields.get, Json.Fields.get?_set_of_ne different]

theorem IsReadable.set {action : ActionDraft} (readable : action.IsReadable) {field : String}
    (notJson : field ∉ Catalog.jsonFields) (value : Json) :
    IsReadable { action with fields := action.fields.set field value } := by
  intro other json
  have different : other ≠ field := fun same => notJson (same ▸ json)
  exact action.text_set_of_ne different value ▸ readable other json

end ActionDraft

theorem isReadable_of_mem_expandActions {actions : List Action} {next : Nat} :
    ∀ action ∈ expandActions next actions, action.IsReadable := by
  induction actions generalizing next with
  | nil => simp [expandActions]
  | cons first rest ih =>
      intro action mem
      rcases List.mem_cons.mp mem with rfl | later
      · exact ActionDraft.isReadable_ofAction _ first
      · exact ih action later

/-! ## One operation -/

namespace Draft

theorem isReadable_empty (next : Nat) : (empty next).1.IsReadable where
  triggerParams := Json.isReadable_nil
  actions := by
    intro action mem
    rw [empty, List.mem_singleton] at mem
    exact mem ▸ ActionDraft.isReadable_default _ _

theorem isReadable_ofRule (next : Nat) (rule : Rule) : (ofRule next rule).1.IsReadable where
  triggerParams := by
    simp only [ofRule]
    split
    · exact Json.isReadable_nil
    · rcases exists_jsonFieldText rule.trigger.params with ⟨text, shown, readable⟩
      rwa [shown, Json.filledText_str]
  actions := isReadable_of_mem_expandActions

theorem isReadable_ofPayload (next : Nat) (payload : Json) :
    (ofPayload next payload).1.IsReadable := by
  rw [ofPayload]
  split
  · exact isReadable_empty next
  · exact isReadable_ofRule next _

namespace IsReadable

variable {draft : Draft}

/-- Actions that were there before, or that can be read themselves. -/
theorem withActions (readable : draft.IsReadable) {actions : List ActionDraft}
    (each : ∀ action ∈ actions, action ∈ draft.actions ∨ action.IsReadable) :
    IsReadable { draft with actions := actions } where
  triggerParams := readable.triggerParams
  actions := by
    intro action mem
    rcases each action mem with before | actionReadable
    · exact readable.actions action before
    · exact actionReadable

theorem addAction (readable : draft.IsReadable) (next : Nat) (kind : Json) :
    (draft.addAction next kind).1.IsReadable := by
  apply readable.withActions
  intro action mem
  rcases List.mem_append.mp mem with before | added
  · exact Or.inl before
  · exact Or.inr (List.mem_singleton.mp added ▸ ActionDraft.isReadable_default kind _)

theorem removeAction (readable : draft.IsReadable) (id : Json) :
    (draft.removeAction id).IsReadable :=
  readable.withActions fun _ mem => Or.inl (List.mem_of_mem_filter mem)

theorem moveAction (readable : draft.IsReadable) (id : Json) (offset : Int) :
    (draft.moveAction id offset).IsReadable := by
  rcases exists_moveAction_eq draft id offset with ⟨actions, perm, moved⟩
  rw [moved]
  exact readable.withActions fun _ mem => Or.inl (perm.mem_iff.mp mem)

theorem mapAction (readable : draft.IsReadable) (id : Json) {change : ActionDraft → ActionDraft}
    (each : ∀ action, action.IsReadable → (change action).IsReadable) :
    (draft.mapAction id change).IsReadable := by
  apply readable.withActions
  intro action mem
  rcases List.mem_map.mp mem with ⟨before, beforeMem, rfl⟩
  split
  · exact Or.inr (each before (readable.actions before beforeMem))
  · exact Or.inl beforeMem

theorem applyTemplate (readable : draft.IsReadable) (next : Nat) {template : Template}
    (triggerParams : Json.IsReadable template.triggerParams.toList) :
    (draft.applyTemplate next template).1.IsReadable where
  triggerParams := by
    rwa [Draft.applyTemplate, Json.filledText_str]
  actions := by
    intro action mem
    simp only [Draft.applyTemplate] at mem
    split at mem
    · exact readable.actions action mem
    · exact isReadable_of_mem_expandActions action mem

end IsReadable

/-- What one operation preserves. -/
theorem IsReadable.apply {draft : Draft} (readable : draft.IsReadable) {next : Nat} {edit : Edit}
    (typesNoJson : edit.TypesNoJson) {after : Draft × Nat}
    (applied : draft.apply next edit = .ok after) : after.1.IsReadable := by
  cases edit with
  | add kind =>
      rcases Scan.map_eq_ok_iff.mp applied with ⟨_, _, rfl⟩
      exact readable.addAction next kind
  | remove id =>
      cases applied
      exact readable.removeAction id
  | move id offset =>
      rcases Scan.map_eq_ok_iff.mp applied with ⟨distance, _, rfl⟩
      cases distance with
      | none => exact readable
      | some places => exact readable.moveAction id places
  | changeType id kind =>
      rw [Draft.apply] at applied
      split at applied
      · rcases Scan.map_eq_ok_iff.mp applied with ⟨_, _, rfl⟩
        exact readable.mapAction id fun action _ => ActionDraft.isReadable_default kind _
      · cases applied
        exact readable
  | setField id field value =>
      cases applied
      exact readable.mapAction id fun action actionReadable => actionReadable.set typesNoJson value
  | template key =>
      rw [Draft.apply] at applied
      split at applied
      · next template found =>
        cases applied
        apply readable.applyTemplate
        rw [Template.triggerParams_eq template (List.mem_of_find?_eq_some found)]
        exact Json.isReadable_nil
      · cases applied
  | reopen =>
      rcases Scan.map_eq_ok_iff.mp applied with ⟨rule, _, rfl⟩
      exact isReadable_ofRule next rule
  | setTriggerParams value => exact typesNoJson.elim
  | setActions actions => exact typesNoJson.elim
  | setId value | setName value | setActive value | setTriggerType value
  | setConditions conditions | setCondition key value =>
      cases applied
      exact ⟨readable.triggerParams, readable.actions⟩

theorem IsReadable.perform {state : Draft × Nat} (readable : state.1.IsReadable) {edit : Edit}
    (typesNoJson : edit.TypesNoJson) : (perform state edit).1.IsReadable := by
  rw [Draft.perform]
  split
  · next applied => exact readable.apply typesNoJson applied
  · exact readable

/-! ## A run -/

/-- What a run of operations preserves. -/
theorem IsReadable.edited {state : Draft × Nat} (readable : state.1.IsReadable)
    {edits : List Edit} (typesNoJson : ∀ edit ∈ edits, edit.TypesNoJson) :
    (edited state edits).1.IsReadable := by
  induction edits generalizing state with
  | nil => exact readable
  | cons edit rest ih =>
      rw [List.forall_mem_cons] at typesNoJson
      exact ih (readable.perform typesNoJson.1) typesNoJson.2

/-- However a draft is edited that was opened from a payload, or from `null` for a new rule: as long
as no JSON text is typed, compiling it never fails for a text that is not JSON. With short numbers
it fails only because something is missing. -/
theorem edited_blames_no_text (payload : Json) (next : Nat) {edits : List Edit}
    (typesNoJson : ∀ edit ∈ edits, edit.TypesNoJson) {failure : Failure}
    (failed : (edited (ofPayload next payload) edits).1.compile = .error failure) :
    (∀ kind, failure.kind? ≠ some (.invalidJson kind)) ∧
      ((edited (ofPayload next payload) edits).1.HasShortNumbers → failure.IsOmission) := by
  have readable : (edited (ofPayload next payload) edits).1.IsReadable :=
    (isReadable_ofPayload next payload).edited typesNoJson
  refine ⟨(readable.blamesNoText failed).kind?_ne, ?_⟩
  intro short
  exact readable.isOmission short failed

/-- A payload in which most things have the wrong shape, and an action whose kind has a blank too
many. -/
def misshapen : Json :=
  .obj [("name", .arr [.null]), ("trigger", .obj [("type", .str " "),
      ("params", .real (.finite false 3 (-1))), ("conditions", .bool true)]),
    ("actions", .arr [.int 7, .obj [("type", .str " send_webhook"),
      ("params", .obj [("url", .str "https://example.com"), ("body", .obj [])])]])]

/-- Operations that type no JSON, one of which fails. -/
def repairs : List Edit :=
  [.setName (.str "Welcome"), .template (.str "nothing"), .setTriggerType (.str "custom"),
    .add (.str "create_task"), .setField (.str "act_0000000000000002") "title" (.str "Call")]

theorem repaired_blames_no_text :
    (∀ edit ∈ repairs, edit.TypesNoJson) ∧
      (edited (ofPayload 1 misshapen) repairs).1.compile =
        .error (.missingActionParam (.str "url") (.str "send_webhook")
          (.str "act_0000000000000001")) ∧
      (edited (ofPayload 1 misshapen) repairs).1.HasShortNumbers ∧
      Failure.IsOmission (.missingActionParam (.str "url") (.str "send_webhook")
        (.str "act_0000000000000001")) := by
  have typesNoJson : ∀ edit ∈ repairs, edit.TypesNoJson := by
    simp [repairs, Edit.TypesNoJson, Catalog.jsonFields, Catalog.unknownField]
  have failed : (edited (ofPayload 1 misshapen) repairs).1.compile =
      .error (.missingActionParam (.str "url") (.str "send_webhook")
        (.str "act_0000000000000001")) := by
    decide +kernel
  have short : (edited (ofPayload 1 misshapen) repairs).1.HasShortNumbers :=
    ⟨by decide +kernel, by decide +kernel⟩
  exact ⟨typesNoJson, failed, short,
    (edited_blames_no_text misshapen 1 typesNoJson failed).2 short⟩

end Draft

end Rulebook
