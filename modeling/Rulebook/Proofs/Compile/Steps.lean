import Mathlib
import Rulebook.Compile
import Rulebook.Proofs.Json.Reach
import Rulebook.Proofs.Scan
import Rulebook.Proofs.Text.Trimming

/-!
# The steps of compiling

Compiling a draft is three scans inside a sequence of checks: over the keys of the conditions, over
the actions, and over the parameters of the kind of an action. This file writes each of them as a
scan and says, for an action and for a whole draft, which case leads to which outcome. The rest of
the theory cites these equations and does not open the compiler again. It also lists the texts that
are read as JSON on the way, for statements that keep to texts within reach of the reader.
-/

namespace Rulebook

/-- The value is a list, an object, or a scalar that counts as filled in. -/
def Json.IsSubstantial (value : Json) : Prop :=
  value.isTruthy = true ∨ value.isList = true ∨ value.isObject = true

instance (value : Json) : Decidable value.IsSubstantial :=
  inferInstanceAs (Decidable (_ ∨ _))

/-- What a JSON field with a value comes to: a blank scalar stands for the value of a blank field,
and an empty object for nothing where there is none. -/
def Param.settle (param : Param) (value : Json) : Option Json :=
  if value.IsSubstantial then
    if param.blankValue = none ∧ value = .obj [] then none else some value
  else param.blankValue

namespace ConditionDraft

theorem compileValue_of_isNumeric {key : ConditionKey} (numeric : key.isNumeric = true)
    (text : List Char) :
    compileValue key text = (lenientNat text).map fun number : Nat => Json.int number := by
  rw [compileValue, if_pos numeric]
  cases lenientNat text <;> rfl

theorem compileValue_of_text {key : ConditionKey} (notNumeric : ¬key.isNumeric = true)
    (text : List Char) : compileValue key text = .ok (.str (String.ofList text)) := by
  rw [compileValue, if_neg notNumeric]

/-- The binding that the field of a condition gives, if it is filled in. -/
def compileKey (draft : ConditionDraft) (key : ConditionKey) :
    Except Failure (Option (String × Json)) :=
  if (draft.trimmed key).isEmpty then .ok none
  else (compileValue key (draft.trimmed key)).map fun value => some (key.name, value)

theorem compileKey_eq_ok_none_iff {draft : ConditionDraft} {key : ConditionKey} :
    draft.compileKey key = .ok none ↔ draft.trimmed key = [] := by
  rw [compileKey]
  split
  · next blank => simpa using blank
  · next filled =>
    cases compileValue key (draft.trimmed key) <;> simpa [Except.map] using filled

theorem compileKey_eq_ok_some_iff {draft : ConditionDraft} {key : ConditionKey}
    {field : String × Json} :
    draft.compileKey key = .ok (some field) ↔ draft.trimmed key ≠ [] ∧
      ∃ value, compileValue key (draft.trimmed key) = .ok value ∧ field = (key.name, value) := by
  rw [compileKey]
  split
  · next blank => simp [List.isEmpty_iff.mp blank]
  · next filled =>
    rw [List.isEmpty_iff] at filled
    rw [Scan.map_eq_ok_iff]
    simp [filled, eq_comm]

theorem compileKeys_eq_filterMapM (draft : ConditionDraft) (keys : List ConditionKey) :
    draft.compileKeys keys = keys.filterMapM draft.compileKey := by
  induction keys with
  | nil => rfl
  | cons key keys ih =>
      by_cases blank : (draft.trimmed key).isEmpty = true
      · have step : draft.compileKey key = .ok none := by rw [compileKey, if_pos blank]
        rw [Scan.filterMapM_cons_ok step, compileKeys, if_pos blank, ih]
        cases keys.filterMapM draft.compileKey <;> rfl
      · cases compiled : compileValue key (draft.trimmed key) with
        | error failure =>
            have step : draft.compileKey key = .error failure := by
              rw [compileKey, if_neg blank, compiled]
              rfl
            rw [Scan.filterMapM_cons_error step, compileKeys, if_neg blank, compiled]
        | ok value =>
            have step : draft.compileKey key = .ok (some (key.name, value)) := by
              rw [compileKey, if_neg blank, compiled]
              rfl
            rw [Scan.filterMapM_cons_ok step, compileKeys, if_neg blank, compiled, ih]
            cases keys.filterMapM draft.compileKey <;> rfl

theorem compile_eq_ok_iff {draft : ConditionDraft} {conditions : Json} :
    draft.compile = .ok conditions ↔
      ∃ fields, ConditionKey.all.filterMapM draft.compileKey = .ok fields ∧
        conditions = if fields = [] then .null else .obj fields := by
  rw [compile, compileKeys_eq_filterMapM]
  cases ConditionKey.all.filterMapM draft.compileKey with
  | error failure => simp
  | ok fields =>
      cases fields with
      | nil => simp [eq_comm]
      | cons first rest => simp [eq_comm]

theorem scan_of_compile {draft : ConditionDraft} {conditions : Json}
    (compiled : draft.compile = .ok conditions) :
    ConditionKey.all.filterMapM draft.compileKey = .ok conditions.fields := by
  rcases compile_eq_ok_iff.mp compiled with ⟨fields, scanned, rfl⟩
  split
  · next empty =>
    rw [scanned, empty]
    rfl
  · exact scanned

end ConditionDraft

namespace ActionDraft

/-- The failure of a JSON field whose text is not JSON. -/
def jsonFailure (action : ActionDraft) (param : Param) (message : List Char) : Failure :=
  .invalidJson (param.jsonKind.getD .anyField) none (.str param.field) action.localId
    (String.ofList message)

theorem compileJson_of_ok {action : ActionDraft} {param : Param} {value : Json}
    (read : Json.parseTyped (action.text param.field) = .ok value) :
    action.compileJson param = .ok (param.settle value) := by
  rw [compileJson, read]
  by_cases substantial : value.IsSubstantial
  · have filled : (!value.isTruthy && !value.isList && !value.isObject) = false := by
      rcases substantial with holds | holds | holds <;> simp [holds]
    simp only [filled, Param.settle, substantial, Bool.false_eq_true, if_false, if_true]
    split <;> rfl
  · have blank : (!value.isTruthy && !value.isList && !value.isObject) = true := by
      simpa [Json.IsSubstantial, not_or, and_assoc] using substantial
    simp only [blank, Param.settle, substantial, if_true, if_false]

theorem compileJson_of_error {action : ActionDraft} {param : Param} {fault : Json.Fault}
    {message : List Char}
    (read : Json.parseTyped (action.text param.field) = .error (fault, message)) :
    action.compileJson param = .error (action.jsonFailure param message) := by
  rw [compileJson, read]
  rfl

theorem compileJson_eq_ok_iff {action : ActionDraft} {param : Param} {result : Option Json} :
    action.compileJson param = .ok result ↔
      ∃ value, Json.parseTyped (action.text param.field) = .ok value ∧
        param.settle value = result := by
  cases read : Json.parseTyped (action.text param.field) with
  | error fault => simp [compileJson_of_error read]
  | ok value => simp [compileJson_of_ok read]

/-- The binding that a parameter of a known kind gives, if its field holds a value. A required
parameter must have one that counts as filled in. -/
def compileBinding (action : ActionDraft) (kind : String) (param : Param) :
    Except Failure (Option (String × Json)) :=
  match action.compileParam param with
  | .error failure => .error failure
  | .ok value =>
      if param.required && !(value.any Json.isTruthy) then
        .error (.missingActionParam (.str param.name) (.str kind) action.localId)
      else .ok (value.map fun present => (param.name, present))

theorem compileBinding_eq_ok_iff {action : ActionDraft} {kind : String} {param : Param}
    {binding : Option (String × Json)} :
    action.compileBinding kind param = .ok binding ↔
      ∃ value, action.compileParam param = .ok value ∧
        (param.required = true → value.any Json.isTruthy = true) ∧
        value.map (fun present => (param.name, present)) = binding := by
  rw [compileBinding]
  cases action.compileParam param with
  | error failure => simp
  | ok value =>
      simp only [Except.ok.injEq, exists_eq_left']
      split
      · next missing =>
        rw [Bool.and_eq_true, Bool.not_eq_true'] at missing
        simp [missing.1, missing.2]
      · next there =>
        rw [Bool.and_eq_true, Bool.not_eq_true', not_and, Bool.not_eq_false] at there
        simp only [Except.ok.injEq, iff_and_self]
        exact fun _ => there

theorem compileParams_eq_filterMapM (action : ActionDraft) (kind : String)
    (params : List Param) :
    action.compileParams kind params = params.filterMapM (action.compileBinding kind) := by
  induction params with
  | nil => rfl
  | cons param params ih =>
      cases compiled : action.compileParam param with
      | error failure =>
          have step : action.compileBinding kind param = .error failure := by
            rw [compileBinding, compiled]
          rw [Scan.filterMapM_cons_error step, compileParams, compiled]
      | ok value =>
          by_cases missing : (param.required && !(value.any Json.isTruthy)) = true
          · have step : action.compileBinding kind param =
                .error (.missingActionParam (.str param.name) (.str kind) action.localId) := by
              simp only [compileBinding, compiled, missing, if_true]
            rw [Scan.filterMapM_cons_error step, compileParams, compiled]
            simp only [missing, if_true]
          · have step : action.compileBinding kind param =
                .ok (value.map fun present => (param.name, present)) := by
              rw [compileBinding, compiled]
              exact if_neg missing
            rw [Scan.filterMapM_cons_ok step, compileParams, compiled, ih]
            simp only [missing, Bool.false_eq_true, if_false]
            cases params.filterMapM (action.compileBinding kind) with
            | error failure => rfl
            | ok fields => cases value <;> rfl

theorem compile_of_blank {action : ActionDraft} (blank : action.kind = []) :
    action.compile = .ok none := by
  rw [compile, blank]
  rfl

/-- An action of a kind that is not in the catalog holds its parameters as one JSON text. -/
theorem compile_of_unknown {action : ActionDraft} (filled : action.kind ≠ [])
    (unknown : Catalog.actionType? (String.ofList action.kind) = none) :
    action.compile = (action.compileJson Catalog.unknownParams).map fun params =>
      some ⟨.str (String.ofList action.kind), params.getD .null⟩ := by
  simp only [compile, List.isEmpty_iff, filled, if_false, unknown]
  cases action.compileJson Catalog.unknownParams <;> rfl

/-- An action of a kind in the catalog is compiled by the parameters of the kind. -/
theorem compile_of_known {action : ActionDraft} {entry : ActionType} (filled : action.kind ≠ [])
    (known : Catalog.actionType? (String.ofList action.kind) = some entry) :
    action.compile =
      (entry.params.filterMapM (action.compileBinding (String.ofList action.kind))).map
        fun fields => some ⟨.str (String.ofList action.kind), .obj fields⟩ := by
  simp only [compile, List.isEmpty_iff, filled, if_false, known, compileParams_eq_filterMapM]
  cases entry.params.filterMapM (action.compileBinding (String.ofList action.kind)) <;> rfl

theorem of_compile_eq_some {action : ActionDraft} {compiled : Action}
    (succeeds : action.compile = .ok (some compiled)) :
    action.kind ≠ [] ∧ compiled.type = .str (String.ofList action.kind) ∧
      ((Catalog.actionType? (String.ofList action.kind) = none ∧
        ∃ params, action.compileJson Catalog.unknownParams = .ok params ∧
          compiled.params = params.getD .null) ∨
      ∃ entry fields, Catalog.actionType? (String.ofList action.kind) = some entry ∧
        entry.params.filterMapM (action.compileBinding (String.ofList action.kind)) =
          .ok fields ∧
        compiled.params = .obj fields) := by
  have filled : action.kind ≠ [] := by
    intro blank
    rw [compile_of_blank blank] at succeeds
    cases succeeds
  cases known : Catalog.actionType? (String.ofList action.kind) with
  | none =>
      rw [compile_of_unknown filled known, Scan.map_eq_ok_iff] at succeeds
      rcases succeeds with ⟨params, compiledParams, same⟩
      cases same
      exact ⟨filled, rfl, Or.inl ⟨rfl, params, compiledParams, rfl⟩⟩
  | some entry =>
      rw [compile_of_known filled known, Scan.map_eq_ok_iff] at succeeds
      rcases succeeds with ⟨fields, compiledFields, same⟩
      cases same
      exact ⟨filled, rfl, Or.inr ⟨entry, fields, rfl, compiledFields, rfl⟩⟩

theorem compile_eq_ok_none_iff {action : ActionDraft} :
    action.compile = .ok none ↔ action.kind = [] := by
  refine ⟨?_, compile_of_blank⟩
  intro compiled
  by_contra filled
  cases known : Catalog.actionType? (String.ofList action.kind) with
  | none =>
      rw [compile_of_unknown filled known, Scan.map_eq_ok_iff] at compiled
      rcases compiled with ⟨_, _, impossible⟩
      cases impossible
  | some entry =>
      rw [compile_of_known filled known, Scan.map_eq_ok_iff] at compiled
      rcases compiled with ⟨_, _, impossible⟩
      cases impossible

end ActionDraft

theorem compileActions_eq_filterMapM (actions : List ActionDraft) :
    compileActions actions = actions.filterMapM ActionDraft.compile := by
  induction actions with
  | nil => rfl
  | cons action rest ih =>
      cases compiled : action.compile with
      | error failure => rw [Scan.filterMapM_cons_error compiled, compileActions, compiled]
      | ok result =>
          rw [Scan.filterMapM_cons_ok compiled, compileActions, compiled, ih]
          cases rest.filterMapM ActionDraft.compile with
          | error failure => rfl
          | ok actions => cases result <;> rfl

namespace Draft

/-- The rule that the checked parts of a draft make. -/
def assemble (draft : Draft) (params conditions : Json) (actions : List Action) : Rule where
  id := draft.id
  name := .str (String.ofList draft.name.trimmedText)
  active := .bool draft.active.isTruthy
  trigger := ⟨.str (String.ofList draft.triggerType.trimmedText), params, conditions⟩
  actions := actions

/-- A draft compiles exactly if all its parts do and it has an action. -/
theorem compile_eq_ok_iff {draft : Draft} {rule : Rule} :
    draft.compile = .ok rule ↔
      draft.name.trimmedText ≠ [] ∧ draft.triggerType.trimmedText ≠ [] ∧
      ∃ params conditions actions, draft.compileTriggerParams = .ok params ∧
        compileConditions draft.conditions = .ok conditions ∧
        compileActions draft.actions = .ok actions ∧ actions ≠ [] ∧
        rule = draft.assemble params conditions actions := by
  simp only [compile, List.isEmpty_iff]
  split
  · next blank => simp [blank]
  split
  · next blank => simp [blank]
  next named typed =>
  cases draft.compileTriggerParams with
  | error failure => simp
  | ok params =>
      cases compileConditions draft.conditions with
      | error failure => simp
      | ok conditions =>
          cases compileActions draft.actions with
          | error failure => simp
          | ok actions =>
              cases actions with
              | nil => simp
              | cons first rest => simp [named, typed, assemble, eq_comm]

end Draft

/-! ## Texts that are read as JSON -/

/-- The fields of an action that are read as JSON: those that hold JSON for its kind, or the one
field of an unknown kind. An action without a kind is not read. -/
def ActionDraft.jsonTexts (action : ActionDraft) : List (List Char) :=
  if action.kind.isEmpty then []
  else match Catalog.actionType? (String.ofList action.kind) with
    | none => [action.text Catalog.unknownField]
    | some entry =>
        (entry.params.filter (·.shape = .json)).map fun param => action.text param.field

namespace Draft

/-- The texts of a draft that are read as JSON. -/
def jsonTexts (draft : Draft) : List (List Char) :=
  draft.triggerParams.filledText :: draft.actions.flatMap ActionDraft.jsonTexts

/-- There is room for the nesting of all JSON texts of the draft. -/
def IsShallow (draft : Draft) : Prop :=
  ∀ text ∈ draft.jsonTexts, Json.IsShallow text

instance (draft : Draft) : Decidable draft.IsShallow :=
  inferInstanceAs (Decidable (∀ text ∈ draft.jsonTexts, _))

/-- No half of a surrogate pair stands alone in the JSON texts of the draft. -/
def HasWholePairs (draft : Draft) : Prop :=
  ∀ text ∈ draft.jsonTexts, Json.HasWholePairs text

instance (draft : Draft) : Decidable draft.HasWholePairs :=
  inferInstanceAs (Decidable (∀ text ∈ draft.jsonTexts, _))

end Draft

end Rulebook
