import Rulebook.Compile
import Rulebook.Envelope
import Rulebook.Http.Resolve

/-!
# Rules on the backend

Listing, creating, updating, removing and firing rules. Updating and removing are chains of
candidates, because backends differ in the routes they have; a rule is created anew only from a
payload that is complete. A draft is compiled before anything is sent.
-/

namespace Rulebook

/-- The route of all rules. -/
def rulesRoute : String := "/automations"

/-- The route on which an event is fired by hand. -/
def executeRoute : String := "/automations/execute"

/-- The route of one rule. Its id is a single segment of the path. -/
def ruleRoute (id : Json) : String :=
  String.ofList ("/automations/".toList ++ Text.percentEncode id.display)

/-- The body with which a rule is created: four fields of its payload and no other. -/
def creationBody (payload : Json.Fields) : Json :=
  .obj [("name", payload.get "name"), ("trigger", payload.get "trigger"),
    ("actions", match payload.get "actions" with
      | .arr items => .arr items
      | _ => .arr []),
    ("active", payload.get "active")]

/-- The payload has what a new rule needs: a name that is not blank, a trigger, and a list of
actions. -/
def isComplete (payload : Json.Fields) : Bool :=
  (match payload.get "name" with
    | .str name => !(Text.trim name.toList).isEmpty
    | _ => false) &&
  (payload.get "trigger").isTruthy && (payload.get "actions").isList

/-- The candidates for an update: two on the route of the rule, and a last one that creates the
rule anew where the payload is complete. -/
def updateCandidates (id : Json) (payload : Json.Fields) : List Candidate :=
  let member := ruleRoute id
  [⟨"patch", member, .obj payload, none⟩, ⟨"post", member, .obj payload, none⟩,
    if isComplete payload then ⟨"post", rulesRoute, creationBody payload, none⟩
    else ⟨"post", member, .obj payload, none⟩]

/-- The candidates for a removal: the rule is deleted or else switched off. -/
def removalCandidates (id : Json) : List Candidate :=
  let member := ruleRoute id
  let off := Json.obj [("active", .bool false)]
  [⟨"delete", member, .null, none⟩, ⟨"patch", member, off, none⟩, ⟨"post", member, off, none⟩]

/-- The body with which an event is fired: the lead and the payload only where there are some. -/
def eventBody (type leadId payload : Json) : Json :=
  .obj ([("type", type)] ++ (if leadId = .null then [] else [("leadId", leadId)]) ++
    (if payload = .null then [] else [("payload", payload)]))

/-- A copy of a rule under a name that says so, with no identity yet. -/
def Rule.copy (rule : Rule) : Rule :=
  { rule with
    id := .null
    name := .str (String.ofList
      ((rule.name.orElse (.str "Automation")).display ++ " (copy)".toList)) }

namespace Client

variable {σ : Type} (client : Client σ)

/-- The listing of rules as the backend gives it. -/
def listPayloads (session : Session σ) : Except Failure (List Json) × Session σ :=
  let (result, session) := client.request ⟨"get", rulesRoute, .null, none⟩ session
  (result.map normalizeList, session)

/-- Fetches the rules. -/
def listRules (session : Session σ) : Except Failure (List Rule) × Session σ :=
  let (result, session) := client.listPayloads session
  (result.map (List.map Rule.ofPayload), session)

/-- Fetches the rules and picks the one whose id is written like this one. -/
def findRule (id : Json) (session : Session σ) : Except Failure (Option Rule) × Session σ :=
  let (result, session) := client.listRules session
  (result.map (List.find? fun rule => rule.id == .str (String.ofList id.display)), session)

/-- Sends a new rule. -/
def createRule (payload : Json.Fields) (session : Session σ) :
    Except Failure Json × Session σ :=
  client.request ⟨"post", rulesRoute, creationBody payload, none⟩
    (session.record .info ("Creating automation ".toList ++ (payload.get "name").quoted))

/-- Sends changes to a rule, in every way that is left until the backend knows one. -/
def updateRule (id : Json) (payload : Json.Fields) (session : Session σ) :
    Except Failure Json × Session σ :=
  client.resolve fallbackStatuses (updateCandidates id payload) session

/-- Removes a rule, or switches it off where the backend cannot delete it. -/
def removeRule (id : Json) (session : Session σ) : Except Failure Json × Session σ :=
  client.resolve fallbackStatuses (removalCandidates id)
    (session.record .info ("Removing automation ".toList ++ id.display))

/-- Fires the rules for an event. -/
def execute (type leadId payload : Json) (session : Session σ) :
    Except Failure Json × Session σ :=
  client.request ⟨"post", executeRoute, eventBody type leadId payload, none⟩ session

/-- Compiles a draft and creates or updates the rule. A draft that does not compile sends
nothing. -/
def saveDraft (draft : Draft) (session : Session σ) : Except Failure Json × Session σ :=
  let session := draft.passedKinds.foldl (fun session kind => session.record .debug
    ("Passing through unknown action kind ".toList ++ Text.quoted kind)) session
  match draft.compile with
  | .error failure => (.error failure, session)
  | .ok rule =>
      match rule.payloadFields with
      | .error failure => (.error failure, session)
      | .ok payload =>
          if rule.id.isTruthy then client.updateRule rule.id payload session
          else client.createRule payload session

/-- Switches a rule on or off. -/
def setActive (rule : Rule) (active : Json) (session : Session σ) :
    Except Failure Json × Session σ :=
  client.updateRule (.str (String.ofList rule.id.display)) [("active", active)] session

/-- Sends a copy of a rule as a new one. -/
def duplicateRule (rule : Rule) (session : Session σ) : Except Failure Json × Session σ :=
  match rule.copy.payloadFields with
  | .error failure => (.error failure, session)
  | .ok payload => client.createRule payload session

/-- Fires the rules for a typed event. A blank event and a payload that is not JSON send nothing;
a blank lead and a payload that does not count as filled in are left out. -/
def executeTyped (typeText leadText payloadText : Json) (session : Session σ) :
    Except Failure Json × Session σ :=
  let type := typeText.trimmedText
  let lead := leadText.trimmedText
  if type.isEmpty then (.error (.missingTriggerType "Event type is required."), session)
  else match Json.parseTyped payloadText.filledText with
    | .error (_, message) =>
        (.error (.invalidJson .eventPayload (some "Payload JSON is invalid.")
          (.str "payload_text") .null (String.ofList message)), session)
    | .ok payload =>
        client.execute (.str (String.ofList type))
          (if lead.isEmpty then .null else .str (String.ofList lead))
          (if payload.isTruthy then payload else .null) session

end Client

end Rulebook
