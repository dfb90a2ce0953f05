import Rulebook.Failure

/-!
# The catalogs of actions and triggers

Each kind of action that the backend knows declares its parameters once. Compiling a draft and
expanding a rule into a draft both walk this declaration; a kind that is not in the catalog holds
its parameters as one JSON text. The order of a catalog is the order in which it is shown.
-/

namespace Rulebook

/-- How a parameter is held in a draft and on the wire. -/
inductive ParamShape
  | text
  /-- A natural number, read leniently. -/
  | integer
  /-- A JSON value, held as JSON text in a draft. -/
  | json
  /-- A list of texts, held as lines in a draft. -/
  | lines
deriving DecidableEq, Repr, Inhabited

/-- One parameter of a kind of action. -/
structure Param where
  name : String
  field : String
  shape : ParamShape
  /-- Whether a blank field is refused. -/
  required : Bool
  /-- What the field holds in a new action. -/
  default : String
  /-- What a JSON field is reported as when its text is not JSON. -/
  jsonKind : Option JsonTextKind
  /-- The value of a JSON field that is blank; without one the parameter is left out. -/
  blankValue : Option Json
deriving DecidableEq, Repr, Inhabited

namespace Param

/-- A text that may be left out. -/
def optionalText (name field : String) : Param :=
  ⟨name, field, .text, false, "", none, none⟩

/-- A text parameter that may not be blank. -/
def requiredText (name field : String) (default : String) : Param :=
  ⟨name, field, .text, true, default, none, none⟩

/-- A number that may be blank. -/
def optionalInteger (name field : String) : Param :=
  ⟨name, field, .integer, false, "", none, none⟩

/-- A list of texts that may be empty. -/
def optionalLines (name field : String) : Param :=
  ⟨name, field, .lines, false, "", none, none⟩

/-- A JSON value that may be left out, with what a blank field stands for. Its text starts as an
empty object. -/
def jsonText (name field : String) (kind : JsonTextKind) (blankValue : Option Json) : Param :=
  ⟨name, field, .json, false, "\x7b\x7d", some kind, blankValue⟩

end Param

/-- A kind of action: how it is shown, and which parameters it has. -/
structure ActionType where
  kind : String
  /-- What the kind is called. -/
  label : String
  icon : String
  /-- Its parameters, in the order in which they are compiled. -/
  params : List Param
deriving DecidableEq, Repr, Inhabited

/-- The parameter of the kind that is held in a draft field. -/
def ActionType.param? (actionType : ActionType) (field : Json) : Option Param :=
  actionType.params.find? fun param => .str param.field == field

namespace Catalog

/-- The kinds of action that the backend knows. -/
def actionTypes : List ActionType :=
  [
    ⟨"send_email_template", "Template Email", "mail-outline",
      [.requiredText "templateId" "template_id" "TEMPLATE_ID",
        .optionalText "to" "to",
        .jsonText "variables" "variables_text" .templateVariables (some (.obj []))]⟩,
    ⟨"send_email", "Email", "send-outline",
      [.requiredText "to" "to" "", .requiredText "subject" "subject" "",
        .requiredText "html" "html" ""]⟩,
    ⟨"send_conversion", "Conversion", "trending-up-outline",
      [.optionalText "eventName" "event_name"]⟩,
    ⟨"update_pipeline", "Update Pipeline", "swap-horizontal-outline",
      [.requiredText "stage" "stage" ""]⟩,
    ⟨"route_to_team", "Route to Team", "people-outline",
      [.requiredText "teamId" "team_id" ""]⟩,
    ⟨"notify_slack", "Slack Notification", "chatbubble-ellipses-outline",
      [.requiredText "webhookUrl" "webhook_url" "", .requiredText "text" "text" ""]⟩,
    ⟨"add_custom_audience", "Custom Audience", "people-circle-outline",
      [.requiredText "adAccountId" "ad_account_id" "",
        .optionalLines "emails" "emails_text"]⟩,
    ⟨"send_webhook", "Webhook", "link-outline",
      [.requiredText "url" "url" "",
        .jsonText "body" "body_text" .webhookBody (some (.obj []))]⟩,
    ⟨"create_task", "Create Task", "checkbox-outline",
      [.requiredText "title" "title" "", .optionalText "dueDate" "due_date",
        .optionalText "assignedTo" "assigned_to",
        .optionalInteger "delayMinutes" "delay_minutes",
        .optionalInteger "delaySeconds" "delay_seconds",
        .jsonText "conditions" "conditions_text" .taskConditions none]⟩
  ]

/-- The icon of a kind that is not in the catalog. -/
def defaultIcon : String := "flash-outline"

/-- The field of a draft that holds the parameters of an action of unknown kind. -/
def unknownField : String := "params_text"

/-- The parameters of an action of unknown kind: one JSON text for all of them. -/
def unknownParams : Param :=
  .jsonText "params" unknownField .actionParams (some (.obj []))

/-- The catalog entry of a kind, if it is in the catalog. -/
def actionType? (kind : String) : Option ActionType :=
  actionTypes.find? fun entry => entry.kind == kind

/-- The catalog entry of a value that stands where a kind is expected. -/
def actionTypeOf? : Json → Option ActionType
  | .str kind => actionType? kind
  | _ => none

/-- A list and an object cannot be looked up as names. -/
def checkName (value : Json) : Except Failure Unit :=
  if value.isList || value.isObject then .error (.notName value) else .ok ()

/-- The value names a kind in the catalog. -/
def isKnown (kind : Json) : Bool :=
  (actionTypeOf? kind).isSome

/-- What a kind is called; a kind outside the catalog is shown as it is. -/
def labelOf (kind : Json) : List Char :=
  match actionTypeOf? kind with
  | some entry => entry.label.toList
  | none => if kind.isTruthy then kind.display else "Action".toList

/-- The icon of a kind. -/
def iconOf (kind : Json) : String :=
  match actionTypeOf? kind with
  | some entry => entry.icon
  | none => defaultIcon

/-- The fields with which an action of a kind starts: the default texts of its parameters. -/
def defaultFields (kind : Json) : Json.Fields :=
  match actionTypeOf? kind with
  | some entry => entry.params.map fun param => (param.field, .str param.default)
  | none => [(unknownField, .str unknownParams.default)]

/-- The events that start a rule, with what they are called. -/
def triggerTypes : List (String × String) :=
  [("lead_created", "Lead Created"), ("lead_updated", "Lead Updated"),
    ("pipeline_stage_changed", "Pipeline Stage Changed"), ("form_submit", "Form Submitted"),
    ("meeting_booked", "Meeting Booked"), ("custom", "Custom")]

/-- The event of a new rule. -/
def defaultTriggerType : String := "lead_created"

/-- The kind of the first action of a new rule. -/
def defaultActionKind : String := "send_email_template"

/-- What an event is called; an event outside the catalog is shown as it is, and a dash stands for a
missing one. -/
def triggerLabelOf (event : Json) : List Char :=
  match event with
  | .str key =>
      match triggerTypes.lookup key with
      | some label => label.toList
      | none => if key.isEmpty then ['—'] else key.toList
  | other => if other.isTruthy then other.display else ['—']

end Catalog

end Rulebook
