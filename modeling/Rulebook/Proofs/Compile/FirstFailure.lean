import Mathlib
import Rulebook.Proofs.Compile.Canonical
import Rulebook.Proofs.Compile.Steps

/-!
# The first failure decides

Three scans run inside each other when a draft is compiled, and each stops at its first failure:
the checks of the draft, the actions, and the parameters of the kind of an action. What is wrong
with a draft is described here without reference to the compiler, by the texts of its fields and by
positions: everything before the position is in order, and what stands there is not. The compiler
reports exactly this. Two things could fail out of order: a number, so no field that is read as one
may begin with more digits than are converted, and a text that nests so deep that the reader comes
to no answer about it, so there must be room for the nesting of all JSON texts.
-/

namespace Rulebook

/-- The text is not blank and is not JSON, for the reason that the message gives. -/
def Json.IsFaulty (text message : List Char) : Prop :=
  Text.trim text ≠ [] ∧ ∃ fault, Json.parse (Text.trim text) = .error fault ∧
    fault.message (Text.trim text) = message

/-- The text does not begin with a number of more digits than are converted. -/
def HasShortNumber (text : List Char) : Prop :=
  ∀ number ∈ leadingInteger? (Text.trim text), number.2.length ≤ Json.digitLimit

instance (text : List Char) : Decidable (HasShortNumber text) :=
  inferInstanceAs (Decidable (∀ number ∈ leadingInteger? (Text.trim text), _))

/-- No field of the action that is read as a number begins with one that is too long. -/
def ActionDraft.HasShortNumbers (action : ActionDraft) : Prop :=
  ∀ entry ∈ Catalog.actionType? (String.ofList action.kind), ∀ param ∈ entry.params,
    param.shape = .integer → HasShortNumber (action.text param.field)

instance (action : ActionDraft) : Decidable action.HasShortNumbers :=
  inferInstanceAs (Decidable (∀ entry ∈ Catalog.actionType? (String.ofList action.kind), _))

/-- No field of the draft that is read as a number begins with one that is too long. -/
structure Draft.HasShortNumbers (draft : Draft) : Prop where
  /-- The numbers of minutes are short. -/
  conditions : ∀ conditions ∈ draft.conditions, ∀ key ∈ ConditionKey.all, key.isNumeric = true →
    HasShortNumber (conditions.field key).filledText
  /-- So are the numbers among the parameters of every action. -/
  actions : ∀ action ∈ draft.actions, action.HasShortNumbers

namespace ActionDraft

/-- What is wrong with one parameter: it is required and its field is blank, or its field should
hold JSON and holds something else. -/
inductive ParamFails (action : ActionDraft) (kind : String) (param : Param) : Failure → Prop
  | missing (required : param.required = true)
      (blank : Text.trim (action.text param.field) = []) :
      ParamFails action kind param (.missingActionParam (.str param.name) (.str kind) action.localId)
  | faulty {message : List Char} (shape : param.shape = .json)
      (faulty : Json.IsFaulty (action.text param.field) message) :
      ParamFails action kind param (action.jsonFailure param message)

/-- What is wrong with an action. An action without a kind is skipped; the parameters of an unknown
kind are one JSON text; of the parameters of a known kind the first that fails counts, in catalog
order. -/
inductive Fails (action : ActionDraft) : Failure → Prop
  | unknown {message : List Char} (filled : action.kind ≠ [])
      (unknown : Catalog.actionType? (String.ofList action.kind) = none)
      (faulty : Json.IsFaulty (action.text Catalog.unknownField) message) :
      Fails action (action.jsonFailure Catalog.unknownParams message)
  | known {entry : ActionType} {failure : Failure} (filled : action.kind ≠ [])
      (known : Catalog.actionType? (String.ofList action.kind) = some entry)
      (first : Scan.FirstFails (action.ParamFails (String.ofList action.kind)) entry.params
        failure) :
      Fails action failure

end ActionDraft

namespace Draft

/-- The failure of a draft whose text for the parameters of the event is not JSON. -/
def triggerParamsFailure (message : List Char) : Failure :=
  .invalidJson .triggerParams (some "Trigger params JSON is invalid.")
    (.str "trigger_params_text") .null (String.ofList message)

/-- The draft has a name and an event, and the parameters of the event are JSON or blank. -/
structure HasTrigger (draft : Draft) : Prop where
  /-- There is a name. -/
  named : draft.name.trimmedText ≠ []
  /-- There is an event. -/
  typed : draft.triggerType.trimmedText ≠ []
  /-- The parameters of the event can be read. -/
  readable : ∀ message, ¬Json.IsFaulty draft.triggerParams.filledText message

/-- What is wrong with the fields of a draft that come before its conditions and actions. -/
inductive HeaderFails (draft : Draft) : Failure → Prop
  | name (blank : draft.name.trimmedText = []) : HeaderFails draft .nameRequired
  | triggerType (named : draft.name.trimmedText ≠ [])
      (blank : draft.triggerType.trimmedText = []) : HeaderFails draft .triggerTypeRequired
  | triggerParams {message : List Char} (named : draft.name.trimmedText ≠ [])
      (typed : draft.triggerType.trimmedText ≠ [])
      (faulty : Json.IsFaulty draft.triggerParams.filledText message) :
      HeaderFails draft (triggerParamsFailure message)

/-- What is wrong with a draft, in the order in which it is looked for. -/
inductive Fails (draft : Draft) : Failure → Prop
  | name (blank : draft.name.trimmedText = []) : Fails draft .nameRequired
  | triggerType (named : draft.name.trimmedText ≠ [])
      (blank : draft.triggerType.trimmedText = []) : Fails draft .triggerTypeRequired
  | triggerParams {message : List Char} (named : draft.name.trimmedText ≠ [])
      (typed : draft.triggerType.trimmedText ≠ [])
      (faulty : Json.IsFaulty draft.triggerParams.filledText message) :
      Fails draft (triggerParamsFailure message)
  | action {failure : Failure} (trigger : draft.HasTrigger)
      (first : Scan.FirstFails ActionDraft.Fails draft.actions failure) : Fails draft failure
  | noAction (trigger : draft.HasTrigger) (blank : ∀ action ∈ draft.actions, action.kind = []) :
      Fails draft .actionRequired

end Draft

/-! ## Fields -/

theorem exists_lenientNat {text : List Char} (short : HasShortNumber text) :
    ∃ number, lenientNat text = .ok number := by
  rw [lenientNat]
  cases leading : leadingInteger? (Text.trim text) with
  | none => exact ⟨0, rfl⟩
  | some number =>
      have converted : ¬Json.digitLimit < number.2.length := Nat.not_lt.mpr (short number leading)
      simp only [converted, if_false]
      exact ⟨_, rfl⟩

theorem HasShortNumber.trim {text : List Char} (short : HasShortNumber text) :
    HasShortNumber (Text.trim text) := by
  rwa [HasShortNumber, Text.trim_trim]

theorem Json.parseTyped_eq_error_iff {text message : List Char} :
    (∃ fault, parseTyped text = .error (fault, message)) ↔ IsFaulty text message := by
  simp only [parseTyped, IsFaulty, List.isEmpty_iff]
  by_cases blank : Text.trim text = []
  · simp [blank]
  · cases parsed : parse (Text.trim text) with
    | ok value => simp [blank]
    | error fault => simp [blank]

namespace ActionDraft

theorem compileJson_eq_error_iff {action : ActionDraft} {param : Param} {failure : Failure} :
    action.compileJson param = .error failure ↔
      ∃ message, Json.IsFaulty (action.text param.field) message ∧
        failure = action.jsonFailure param message := by
  simp only [← Json.parseTyped_eq_error_iff]
  cases read : Json.parseTyped (action.text param.field) with
  | ok value => simp [compileJson_of_ok read]
  | error fault =>
      rcases fault with ⟨fault, message⟩
      simp [compileJson_of_error read, eq_comm]

theorem exists_compileParam {action : ActionDraft} {param : Param} (shape : param.shape ≠ .json)
    (short : param.shape = .integer → HasShortNumber (action.text param.field)) :
    ∃ value, action.compileParam param = .ok value := by
  cases held : param.shape with
  | json => exact absurd held shape
  | text =>
      simp only [compileParam, held]
      split <;> exact ⟨_, rfl⟩
  | lines =>
      simp only [compileParam, held]
      split <;> exact ⟨_, rfl⟩
  | integer =>
      rcases exists_lenientNat (short held).trim with ⟨number, read⟩
      simp only [compileParam, held, read]
      split <;> exact ⟨_, rfl⟩

theorem compileParam_of_required {action : ActionDraft} {param : Param} (shape : param.shape = .text)
    (required : param.required = true) :
    action.compileParam param =
      .ok (some (.str (String.ofList (Text.trim (action.text param.field))))) := by
  simp [compileParam, shape, required]

section Binding

variable {action : ActionDraft} {kind : String} {param : Param} {failure : Failure}

theorem compileBinding_eq_error_iff_of_json (sound : param.IsSound) (json : param.shape = .json) :
    action.compileBinding kind param = .error failure ↔ action.ParamFails kind param failure := by
  have notRequired : param.required = false := by
    rw [← Bool.not_eq_true]
    intro required
    rw [sound.required required] at json
    cases json
  have compiled : action.compileParam param = action.compileJson param := by
    simp only [compileParam, json]
  constructor
  · intro failed
    cases read : action.compileJson param with
    | ok value => simp [compileBinding, compiled, read, notRequired] at failed
    | error other =>
        simp only [compileBinding, compiled, read, Except.error.injEq] at failed
        rcases compileJson_eq_error_iff.mp read with ⟨message, faulty, rfl⟩
        exact failed ▸ .faulty json faulty
  · intro fails
    cases fails with
    | missing required blank =>
        rw [required] at notRequired
        cases notRequired
    | faulty _ faulty =>
        rw [compileBinding, compiled, compileJson_eq_error_iff.mpr ⟨_, faulty, rfl⟩]

theorem compileBinding_eq_error_iff_of_ne_json (sound : param.IsSound)
    (notJson : param.shape ≠ .json)
    (short : param.shape = .integer → HasShortNumber (action.text param.field)) :
    action.compileBinding kind param = .error failure ↔ action.ParamFails kind param failure := by
  constructor
  · intro failed
    rcases exists_compileParam notJson short with ⟨value, compiled⟩
    simp only [compileBinding, compiled] at failed
    split at failed
    · next missing =>
      rw [Bool.and_eq_true, Bool.not_eq_true'] at missing
      rw [compileParam_of_required (sound.required missing.1) missing.1] at compiled
      have blank : Text.trim (action.text param.field) = [] := by
        cases compiled
        simpa [Json.isTruthy, String.isEmpty_iff] using missing.2
      cases failed
      exact .missing missing.1 blank
    · cases failed
  · intro fails
    cases fails with
    | missing required blank =>
        rw [compileBinding, compileParam_of_required (sound.required required) required, blank]
        simp [required, Json.isTruthy]
    | faulty shape _ => exact absurd shape notJson

/-- A parameter fails exactly with what is wrong with it. -/
theorem compileBinding_eq_error_iff (sound : param.IsSound)
    (short : param.shape = .integer → HasShortNumber (action.text param.field)) :
    action.compileBinding kind param = .error failure ↔ action.ParamFails kind param failure := by
  by_cases json : param.shape = .json
  · exact compileBinding_eq_error_iff_of_json sound json
  · exact compileBinding_eq_error_iff_of_ne_json sound json short

end Binding

/-! ## Actions -/

/-- Once it is known how the parameters of its kind fail, it is known how an action fails. -/
theorem compile_eq_error_iff_of_params {action : ActionDraft} {fails : Param → Failure → Prop}
    (each : ∀ entry ∈ Catalog.actionType? (String.ofList action.kind), ∀ param ∈ entry.params,
      ∀ failure, action.compileBinding (String.ofList action.kind) param = .error failure ↔
        fails param failure) {failure : Failure} :
    action.compile = .error failure ↔
      (action.kind ≠ [] ∧ Catalog.actionType? (String.ofList action.kind) = none ∧
        ∃ message, Json.IsFaulty (action.text Catalog.unknownField) message ∧
          failure = action.jsonFailure Catalog.unknownParams message) ∨
      (action.kind ≠ [] ∧ ∃ entry,
        Catalog.actionType? (String.ofList action.kind) = some entry ∧
          Scan.FirstFails fails entry.params failure) := by
  by_cases blank : action.kind = []
  · simp [compile_of_blank blank, blank]
  cases held : Catalog.actionType? (String.ofList action.kind) with
  | none =>
      rw [compile_of_unknown blank held, Scan.map_eq_error_iff, compileJson_eq_error_iff]
      simp [blank, Catalog.unknownParams, Param.jsonText]
  | some entry =>
      rw [compile_of_known blank held, Scan.map_eq_error_iff,
        Scan.filterMapM_eq_error_iff_firstFails (each entry held)]
      simp [blank]

/-- An action fails exactly with what is wrong with it. -/
theorem compile_eq_error_iff {action : ActionDraft} (short : action.HasShortNumbers)
    {failure : Failure} : action.compile = .error failure ↔ action.Fails failure := by
  have each : ∀ entry ∈ Catalog.actionType? (String.ofList action.kind), ∀ param ∈ entry.params,
      ∀ failure, action.compileBinding (String.ofList action.kind) param = .error failure ↔
        action.ParamFails (String.ofList action.kind) param failure := by
    intro entry held param mem failure
    have sound := Catalog.isSound_of_mem entry (Catalog.mem_of_actionType? held) param mem
    exact compileBinding_eq_error_iff sound (short entry held param mem)
  rw [compile_eq_error_iff_of_params each]
  constructor
  · rintro (⟨filled, unknown, message, faulty, rfl⟩ | ⟨filled, entry, known, first⟩)
    · exact .unknown filled unknown faulty
    · exact .known filled known first
  · intro fails
    cases fails with
    | unknown filled unknown faulty => exact Or.inl ⟨filled, unknown, _, faulty, rfl⟩
    | known filled known first => exact Or.inr ⟨filled, _, known, first⟩

end ActionDraft

theorem compileActions_eq_error_iff {actions : List ActionDraft}
    (short : ∀ action ∈ actions, action.HasShortNumbers) {failure : Failure} :
    compileActions actions = .error failure ↔
      Scan.FirstFails ActionDraft.Fails actions failure := by
  rw [compileActions_eq_filterMapM]
  apply Scan.filterMapM_eq_error_iff_firstFails
  intro action mem other
  exact ActionDraft.compile_eq_error_iff (short action mem)

/-- The failure is one of an action: a parameter that is missing or a field that is not JSON. -/
inductive Failure.IsOfAction : Failure → Prop
  | missing (param kind localId : Json) : IsOfAction (.missingActionParam param kind localId)
  | faulty (kind : JsonTextKind) (field localId : Json) (cause : String) :
      IsOfAction (.invalidJson kind none field localId cause)

theorem ActionDraft.Fails.isOfAction {action : ActionDraft} {failure : Failure}
    (fails : action.Fails failure) : failure.IsOfAction := by
  cases fails with
  | unknown => exact .faulty _ _ _ _
  | known _ _ first =>
      rcases first with ⟨_, _, _, _, _, failed⟩
      cases failed with
      | missing => exact .missing _ _ _
      | faulty => exact .faulty _ _ _ _

theorem Scan.FirstFails.isOfAction {actions : List ActionDraft} {failure : Failure}
    (first : Scan.FirstFails ActionDraft.Fails actions failure) : failure.IsOfAction := by
  rcases first with ⟨_, _, _, _, _, fails⟩
  exact fails.isOfAction

theorem compileActions_eq_nil_iff {actions : List ActionDraft} :
    compileActions actions = .ok [] ↔ ∀ action ∈ actions, action.kind = [] := by
  rw [compileActions_eq_filterMapM]
  constructor
  · intro scanned action mem
    rw [← ActionDraft.compile_eq_ok_none_iff]
    rcases Scan.exists_ok_of_mem scanned action mem with ⟨result, compiled⟩
    cases result with
    | none => exact compiled
    | some held => simpa using (Scan.mem_results_iff scanned).mpr ⟨action, mem, compiled⟩
  · intro blank
    rw [Scan.filterMapM_of_ok (fun _ => none) fun action mem =>
      ActionDraft.compile_of_blank (blank action mem)]
    simp

/-! ## Drafts -/

theorem exists_compileConditions {draft : Option ConditionDraft}
    (short : ∀ conditions ∈ draft, ∀ key ∈ ConditionKey.all, key.isNumeric = true →
      HasShortNumber (conditions.field key).filledText) :
    ∃ conditions, compileConditions draft = .ok conditions := by
  cases draft with
  | none => exact ⟨.null, rfl⟩
  | some draft =>
      have each : ∀ key ∈ ConditionKey.all, ∃ binding, draft.compileKey key = .ok binding := by
        intro key mem
        rw [ConditionDraft.compileKey]
        split
        · exact ⟨none, rfl⟩
        · by_cases numeric : key.isNumeric = true
          · rcases exists_lenientNat (short draft rfl key mem numeric).trim with ⟨number, read⟩
            rw [ConditionDraft.compileValue_of_isNumeric numeric, ConditionDraft.trimmed,
              Json.trimmedText, read]
            exact ⟨_, rfl⟩
          · rw [ConditionDraft.compileValue_of_text numeric]
            exact ⟨_, rfl⟩
      exact ⟨_, ConditionDraft.compile_eq_ok_iff.mpr
        ⟨_, Scan.filterMapM_eq_ok_iff.mpr ⟨each, rfl⟩, rfl⟩⟩

namespace Draft

theorem compileTriggerParams_eq_error_iff {draft : Draft} {failure : Failure} :
    draft.compileTriggerParams = .error failure ↔
      ∃ message, Json.IsFaulty draft.triggerParams.filledText message ∧
        failure = triggerParamsFailure message := by
  simp only [← Json.parseTyped_eq_error_iff, compileTriggerParams]
  cases read : Json.parseTyped draft.triggerParams.filledText with
  | ok value => simp
  | error fault =>
      rcases fault with ⟨fault, message⟩
      simp [triggerParamsFailure, eq_comm]

theorem HasTrigger.exists_compileTriggerParams {draft : Draft} (trigger : draft.HasTrigger) :
    ∃ params, draft.compileTriggerParams = .ok params := by
  rw [Scan.exists_ok_iff]
  intro failure failed
  rcases compileTriggerParams_eq_error_iff.mp failed with ⟨message, faulty, _⟩
  exact trigger.readable message faulty

/-- With a name and an event in order, the conditions decide, and after them the actions. -/
theorem HasTrigger.exists_compile_eq {draft : Draft} (trigger : draft.HasTrigger) :
    ∃ params, draft.compile =
      match compileConditions draft.conditions with
      | .error failure => .error failure
      | .ok conditions =>
          match compileActions draft.actions with
          | .error failure => .error failure
          | .ok [] => .error .actionRequired
          | .ok actions => .ok (draft.assemble params conditions actions) := by
  rcases trigger.exists_compileTriggerParams with ⟨params, compiled⟩
  refine ⟨params, ?_⟩
  simp only [compile, List.isEmpty_iff, trigger.named, trigger.typed, if_false, compiled]
  rfl

/-- Without numbers that are too long, only the actions can decide. -/
theorem HasTrigger.compile_eq {draft : Draft} (trigger : draft.HasTrigger)
    (short : draft.HasShortNumbers) :
    ∃ params conditions, draft.compile =
      match compileActions draft.actions with
      | .error failure => .error failure
      | .ok [] => .error .actionRequired
      | .ok actions => .ok (draft.assemble params conditions actions) := by
  rcases trigger.exists_compile_eq with ⟨params, decided⟩
  rcases exists_compileConditions short.conditions with ⟨conditions, compiled⟩
  exact ⟨params, conditions, by rw [decided, compiled]⟩

theorem compile_of_headerFails {draft : Draft} {failure : Failure}
    (fails : draft.HeaderFails failure) : draft.compile = .error failure := by
  cases fails with
  | name blank => simp [compile, blank]
  | triggerType named blank => simp [compile, named, blank]
  | triggerParams named typed faulty =>
      simp [compile, named, typed, compileTriggerParams_eq_error_iff.mpr ⟨_, faulty, rfl⟩]

theorem hasTrigger_or_headerFails (draft : Draft) :
    draft.HasTrigger ∨ ∃ failure, draft.HeaderFails failure := by
  by_cases named : draft.name.trimmedText = []
  · exact Or.inr ⟨_, .name named⟩
  by_cases typed : draft.triggerType.trimmedText = []
  · exact Or.inr ⟨_, .triggerType named typed⟩
  by_cases faulty : ∃ message, Json.IsFaulty draft.triggerParams.filledText message
  · rcases faulty with ⟨message, faulty⟩
    exact Or.inr ⟨_, .triggerParams named typed faulty⟩
  · exact Or.inl ⟨named, typed, not_exists.mp faulty⟩

theorem HeaderFails.fails {draft : Draft} {failure : Failure} (fails : draft.HeaderFails failure) :
    draft.Fails failure := by
  cases fails with
  | name blank => exact .name blank
  | triggerType named blank => exact .triggerType named blank
  | triggerParams named typed faulty => exact .triggerParams named typed faulty

theorem HasTrigger.fails_of_compile {draft : Draft} (trigger : draft.HasTrigger)
    (short : draft.HasShortNumbers) {failure : Failure} (failed : draft.compile = .error failure) :
    draft.Fails failure := by
  rcases trigger.compile_eq short with ⟨_, _, decided⟩
  rw [decided] at failed
  cases compiled : compileActions draft.actions with
  | error other =>
      rw [compiled] at failed
      cases failed
      exact .action trigger ((compileActions_eq_error_iff short.actions).mp compiled)
  | ok actions =>
      rw [compiled] at failed
      cases actions with
      | nil =>
          cases failed
          exact .noAction trigger (compileActions_eq_nil_iff.mp compiled)
      | cons first rest => cases failed

theorem fails_of_compile {draft : Draft} (short : draft.HasShortNumbers) {failure : Failure}
    (failed : draft.compile = .error failure) : draft.Fails failure := by
  rcases draft.hasTrigger_or_headerFails with trigger | ⟨other, header⟩
  · exact trigger.fails_of_compile short failed
  · rw [compile_of_headerFails header] at failed
    cases failed
    exact header.fails

theorem compile_of_fails {draft : Draft} (short : draft.HasShortNumbers) {failure : Failure}
    (fails : draft.Fails failure) : draft.compile = .error failure := by
  cases fails with
  | name blank => exact compile_of_headerFails (.name blank)
  | triggerType named blank => exact compile_of_headerFails (.triggerType named blank)
  | triggerParams named typed faulty =>
      exact compile_of_headerFails (.triggerParams named typed faulty)
  | action trigger first =>
      rcases trigger.compile_eq short with ⟨_, _, decided⟩
      rw [decided, (compileActions_eq_error_iff short.actions).mpr first]
  | noAction trigger blank =>
      rcases trigger.compile_eq short with ⟨_, _, decided⟩
      rw [decided, compileActions_eq_nil_iff.mpr blank]

/-- A draft fails exactly with the first thing that is wrong with it. -/
theorem compile_eq_error_iff {draft : Draft} (short : draft.HasShortNumbers) {failure : Failure} :
    draft.compile = .error failure ↔ draft.Fails failure :=
  ⟨fails_of_compile short, compile_of_fails short⟩

/-- A draft with an action without a kind, one with a blank parameter and a text that is not JSON,
and one whose parameters are not JSON. -/
def masked : Draft where
  id := .null
  name := .str "Welcome"
  active := .bool true
  triggerType := .str "lead_created"
  triggerParams := .str " "
  conditions := some (ConditionDraft.blank.set .noActivity (.str "15min"))
  actions :=
    [⟨.str " ", [("params_text", .str "(")], .str "act_1"⟩,
      ⟨.str "send_webhook", [("body_text", .str "(")], .str "act_2"⟩,
      ⟨.str "other", [("params_text", .str "(")], .str "act_3"⟩]

theorem masked_hasTrigger : masked.HasTrigger where
  named := by decide
  typed := by decide
  readable := by
    rintro message ⟨filled, _⟩
    exact absurd filled (by decide)

end Draft

end Rulebook
