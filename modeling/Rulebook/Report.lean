import Rulebook.Failure

/-!
# Reports

A failure that callers handle by kind is passed on as a report: its kind, what is said, what a
handler is told beside it, and, where a request failed, what the backend answered.
`Failure.report?` reports a failure of this library. `Report.make` makes a report of a kind from
named arguments, which may hold any values.
-/

namespace Rulebook

/-- What a handler is told about a failure. -/
structure Report where
  kind : FailureKind
  /-- What is said about it. -/
  message : Json
  /-- What is told beside the message. -/
  details : Json
  /-- What the backend answered to a request that failed. -/
  payload : Option Json
deriving DecidableEq, Repr, Inhabited

/-- The report of a failure that callers handle by kind. -/
def Failure.report? (failure : Failure) : Option Report :=
  failure.kind?.map fun kind => {
    kind := kind
    message := .str (String.ofList failure.message)
    details := .obj failure.details
    payload := match failure with
      | .network _ _ _ _ payload => some payload
      | _ => none }

namespace FailureKind

/-- The class of the failures of a kind. -/
def owner : FailureKind → String
  | general | invalidRule => "AutomationError"
  | missingName => "MissingNameError"
  | missingTriggerType => "MissingTriggerTypeError"
  | emptyActions => "EmptyActionsError"
  | missingActionParam => "MissingActionParamError"
  | invalidJson _ => "JsonFieldError"
  | network => "NetworkError"

/-- The names of what a failure of the kind is made from. -/
def arguments : FailureKind → List String
  | general | invalidRule => ["message", "details"]
  | missingName | missingTriggerType | emptyActions => ["message"]
  | missingActionParam => ["message", "param", "action_type", "local_id"]
  | invalidJson _ => ["message", "field", "local_id", "cause"]
  | network => ["message", "method", "url", "status_code", "payload"]

/-- The message of a failure that is given none; without it a message has to be given. -/
def standardMessage? : FailureKind → Option (List Char)
  | missingName => some Failure.nameRequired.message
  | missingTriggerType => some Failure.triggerTypeRequired.message
  | emptyActions => some Failure.actionRequired.message
  | missingActionParam | invalidJson _ => some []
  | general | invalidRule | network => none

end FailureKind

namespace Report

/-- The message of a report from its arguments: a missing or empty message gives way to one that
names the parameter or the field, where the kind has such a message. -/
def messageOf (kind : FailureKind) (given : Json.Fields) (message : Json) : Json :=
  match kind with
  | .missingActionParam => message.orElse (.str (String.ofList
      (Failure.paramMessage (given.get "param") (given.get "action_type"))))
  | .invalidJson _ => message.orElse (.str (String.ofList
      (Failure.jsonMessage (given.get "field"))))
  | _ => message

/-- The details of a failure made from these arguments. -/
def detailsOf (kind : FailureKind) (given : Json.Fields) : Json :=
  let picked (names : List String) : Json.Fields := names.map fun name => (name, given.get name)
  match kind with
  | .general | .invalidRule => (given.get "details").orElse (.obj [])
  | .missingName | .missingTriggerType | .emptyActions => .obj []
  | .missingActionParam => .obj (picked ["param", "action_type", "local_id"])
  | .invalidJson _ => .obj (picked ["field", "local_id"] ++
      if (given.get "cause").isTruthy then
        [("cause", .str (String.ofList (given.get "cause").display))]
      else [])
  | .network => .obj (picked ["method", "url", "status_code"])

/-- Makes a report of a kind. An argument that the kind does not have fails, and so does a
missing message where the kind has none of its own. -/
def make (kind : FailureKind) (given : Json.Fields) : Except Failure Report :=
  match given.find? fun (name, _) => !kind.arguments.contains name with
  | some (name, _) => .error (.unknownArgument kind.owner name)
  | none =>
      let message := (given.get? "message").orElse fun _ =>
        kind.standardMessage?.map fun text => .str (String.ofList text)
      match message with
      | none => .error (.missingArgument kind.owner "message")
      | some message => .ok {
          kind := kind
          message := messageOf kind given message
          details := detailsOf kind given
          payload := if kind = .network then some (given.get "payload") else none }

end Report

end Rulebook
