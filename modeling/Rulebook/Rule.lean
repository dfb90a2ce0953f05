import Rulebook.Failure
import Rulebook.Json.Equality
import Rulebook.Json.Pairs

/-!
# Automation rules

A rule is what the backend stores: a trigger with optional parameters and conditions, and the
actions that run when it fires. `Rule.toPayload` writes the wire payload of a rule and
`Rule.ofPayload` reads one; reading accepts any value and repairs what is missing or misshapen.
The parts of a rule are JSON values, because a rule may come from elsewhere than the compiler.
-/

namespace Rulebook

/-- What starts a rule. -/
structure Trigger where
  type : Json
  /-- The parameters of the event; `null` where there are none. -/
  params : Json
  /-- The conditions under which the rule fires; `null` where there are none. -/
  conditions : Json
deriving DecidableEq, Repr, Inhabited

/-- One step of a rule. -/
structure Action where
  /-- The kind of the action. -/
  type : Json
  params : Json
deriving DecidableEq, Repr, Inhabited

/-- A rule as the backend stores it. -/
structure Rule where
  /-- The identity that the backend gave to the rule; `null` for a rule that it has not seen. -/
  id : Json
  name : Json
  active : Json
  /-- What starts the rule. -/
  trigger : Trigger
  /-- The steps, in the order in which they run. -/
  actions : List Action
deriving DecidableEq, Repr, Inhabited

/-- The five conditions that a trigger can have. -/
inductive ConditionKey
  | pipelineStage
  | form
  | segment
  /-- No form was submitted for so many minutes. -/
  | noFormSubmission
  /-- The lead has been inactive for so many minutes. -/
  | noActivity
deriving DecidableEq, Repr, Inhabited

namespace ConditionKey

/-- The conditions in the order in which they are compiled. -/
def all : List ConditionKey :=
  [pipelineStage, form, segment, noFormSubmission, noActivity]

/-- The name of the field in which a form keeps the condition. -/
def name : ConditionKey → String
  | pipelineStage => "pipeline_stage_is"
  | form => "form_id_is"
  | segment => "segment_id"
  | noFormSubmission => "no_form_submission_since_minutes"
  | noActivity => "no_activity_since_minutes"

/-- The condition holds a number of minutes. -/
def isNumeric : ConditionKey → Bool
  | noFormSubmission | noActivity => true
  | _ => false

/-- The condition of a field. -/
def ofName? (name : String) : Option ConditionKey :=
  all.find? fun key => key.name == name

end ConditionKey

namespace Trigger

/-- The payload of a trigger: parameters and conditions only where there are some. Conditions that
are no object must be pairs of names and values. -/
def toPayload (trigger : Trigger) : Except Failure Json :=
  let start := [("type", trigger.type)] ++
    if trigger.params = .null then [] else [("params", trigger.params)]
  if trigger.conditions.isTruthy then
    trigger.conditions.toFields.map fun conditions =>
      .obj (start ++ [("conditions", .obj conditions)])
  else .ok (.obj start)

/-- Reads a trigger from the value that a payload holds for it. -/
def ofPayload (payload : Json) : Trigger where
  type := .str (String.ofList (payload.field "type").filledText)
  params := payload.field "params"
  conditions :=
    match payload.field "conditions" with
    | .obj (first :: rest) => .obj (first :: rest)
    | _ => .null

end Trigger

namespace Action

/-- The payload of an action. -/
def toPayload (action : Action) : Json :=
  .obj [("type", action.type), ("params", action.params)]

/-- Reads an action from an item of a payload; what is not an object is no action. -/
def ofPayload? (payload : Json) : Option Action :=
  match payload with
  | .obj fields => some {
      type := .str (String.ofList (Json.Fields.get fields "type").filledText)
      params := match Json.Fields.get fields "params" with
        | .null => .obj []
        | params => params }
  | _ => none

end Action

namespace Rule

/-- The rule is switched on: anything but `false` counts as such. -/
def isActive (rule : Rule) : Bool :=
  rule.active != .bool false

/-- The fields of a rule as they are sent, without its id. -/
def payloadFields (rule : Rule) : Except Failure Json.Fields :=
  rule.trigger.toPayload.map fun trigger =>
    [("name", rule.name), ("trigger", trigger),
      ("actions", .arr (rule.actions.map Action.toPayload)), ("active", rule.active)]

/-- The rule as it is sent. -/
def toPayload (rule : Rule) : Except Failure Json :=
  rule.payloadFields.map .obj

/-- Reads a rule from a payload. Any value is accepted. -/
def ofPayload (payload : Json) : Rule where
  id := match payload.field "id" with
    | .null => .null
    | id => .str (String.ofList id.display)
  name := .str (String.ofList (payload.field "name").filledText)
  active := .bool (payload.field "active" != .bool false)
  trigger := Trigger.ofPayload (payload.field "trigger")
  actions := match payload.field "actions" with
    | .arr items => items.filterMap Action.ofPayload?
    | _ => []

/-- Two rules are equal up to the representation of the values in them. -/
def agrees (left right : Rule) : Bool :=
  left.name.agrees right.name &&
    left.trigger.type.agrees right.trigger.type &&
    left.trigger.params.agrees right.trigger.params &&
    left.trigger.conditions.agrees right.trigger.conditions &&
    left.actions.length == right.actions.length &&
    (left.actions.zip right.actions).all (fun (a, b) =>
      a.type.agrees b.type && a.params.agrees b.params) &&
    left.active.agrees right.active && left.id.agrees right.id

end Rule

end Rulebook
