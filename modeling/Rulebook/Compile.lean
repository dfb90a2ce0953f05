import Rulebook.Condition
import Rulebook.Json.Parser
import Rulebook.Text.Lines

/-!
# Compiling drafts

`Draft.compile` turns what was typed into a rule or finds the first thing that is wrong with it:
first the name, then the trigger, then the conditions, then the actions one after the other, each
by the parameters of its kind in catalog order. Only the trimmed texts of the fields that the
catalog names have a say in the outcome.
-/

namespace Rulebook

/-- The items of a typed list: what stands between line ends and commas, without the blanks around
it, as far as it is not blank. -/
def listItems (text : List Char) : List (List Char) :=
  (((Text.splitAt '\n' text).flatMap (Text.splitAt ',')).map Text.trim).filter (!·.isEmpty)

namespace ActionDraft

/-- The kind of an action without the blanks around it. -/
def kind (action : ActionDraft) : List Char :=
  action.type.trimmedText

/-- The value that a JSON field holds. A blank field and a blank scalar stand for the default of
the parameter, and so does an empty object where the default is to leave the parameter out. -/
def compileJson (action : ActionDraft) (param : Param) : Except Failure (Option Json) :=
  match Json.parseTyped (action.text param.field) with
  | .error (_, message) =>
      .error (.invalidJson (param.jsonKind.getD .anyField) none (.str param.field)
        action.localId (String.ofList message))
  | .ok value =>
      if !value.isTruthy && !value.isList && !value.isObject then .ok param.blankValue
      else if param.blankValue = none ∧ value = .obj [] then .ok none
      else .ok (some value)

/-- The value of a parameter, if the field holds one. -/
def compileParam (action : ActionDraft) (param : Param) : Except Failure (Option Json) :=
  let text := Text.trim (action.text param.field)
  match param.shape with
  | .json => action.compileJson param
  | .lines =>
      match listItems text with
      | [] => .ok none
      | items => .ok (some (.arr (items.map fun item => .str (String.ofList item))))
  | .integer =>
      if text.isEmpty then .ok none
      else match lenientNat text with
        | .ok number => .ok (some (.int number))
        | .error failure => .error failure
  | .text =>
      if text.isEmpty && !param.required then .ok none
      else .ok (some (.str (String.ofList text)))

/-- The fields that the parameters of a kind come to, in catalog order. The first parameter that
fails or is missing decides. -/
def compileParams (action : ActionDraft) (kind : String) :
    List Param → Except Failure Json.Fields
  | [] => .ok []
  | param :: params =>
      match action.compileParam param with
      | .error failure => .error failure
      | .ok value =>
          if param.required && !(value.any Json.isTruthy) then
            .error (.missingActionParam (.str param.name) (.str kind) action.localId)
          else
            match action.compileParams kind params with
            | .error failure => .error failure
            | .ok fields =>
                .ok (match value with
                  | some present => (param.name, present) :: fields
                  | none => fields)

/-- Compiles one action. An action without a kind is no action. -/
def compile (action : ActionDraft) : Except Failure (Option Action) :=
  let kind := String.ofList action.kind
  if action.kind.isEmpty then .ok none
  else match Catalog.actionType? kind with
    | none =>
        match action.compileJson Catalog.unknownParams with
        | .error failure => .error failure
        | .ok params => .ok (some ⟨.str kind, params.getD .null⟩)
    | some entry =>
        match action.compileParams kind entry.params with
        | .error failure => .error failure
        | .ok fields => .ok (some ⟨.str kind, .obj fields⟩)

end ActionDraft

/-- Compiles actions in order. The first one that fails decides; actions without a kind are
skipped. -/
def compileActions : List ActionDraft → Except Failure (List Action)
  | [] => .ok []
  | action :: rest =>
      match action.compile with
      | .error failure => .error failure
      | .ok compiled =>
          match compileActions rest with
          | .error failure => .error failure
          | .ok actions =>
              .ok (match compiled with
                | some present => present :: actions
                | none => actions)

/-- The kinds outside the catalog that compiling the actions lets pass, up to the first action that
fails. -/
def passedKinds : List ActionDraft → List (List Char)
  | [] => []
  | action :: rest =>
      match action.compile with
      | .error _ => []
      | .ok none => passedKinds rest
      | .ok (some compiled) =>
          if Catalog.isKnown compiled.type then passedKinds rest
          else compiled.type.display :: passedKinds rest

namespace Draft

/-- The parameters of the event, as far as their text is JSON. -/
def compileTriggerParams (draft : Draft) : Except Failure Json :=
  match Json.parseTyped draft.triggerParams.filledText with
  | .ok value => .ok value
  | .error (_, message) =>
      .error (.invalidJson .triggerParams (some "Trigger params JSON is invalid.")
        (.str "trigger_params_text") .null (String.ofList message))

/-- Compiles a draft into a rule, or finds the first thing that is wrong with it. -/
def compile (draft : Draft) : Except Failure Rule :=
  let name := draft.name.trimmedText
  let triggerType := draft.triggerType.trimmedText
  if name.isEmpty then .error .nameRequired
  else if triggerType.isEmpty then .error .triggerTypeRequired
  else
    match draft.compileTriggerParams with
    | .error failure => .error failure
    | .ok params =>
        match compileConditions draft.conditions with
        | .error failure => .error failure
        | .ok conditions =>
            match compileActions draft.actions with
            | .error failure => .error failure
            | .ok [] => .error .actionRequired
            | .ok actions => .ok {
                id := draft.id
                name := .str (String.ofList name)
                active := .bool draft.active.isTruthy
                trigger := ⟨.str (String.ofList triggerType), params, conditions⟩
                actions := actions }

/-- The kinds outside the catalog that compiling the draft lets pass. Actions are compiled only
where everything before them is in order. -/
def passedKinds (draft : Draft) : List (List Char) :=
  match ({ draft with actions := [] } : Draft).compile with
  | .error (.emptyActions _) => Rulebook.passedKinds draft.actions
  | _ => []

end Draft

end Rulebook
