import Rulebook.Compile
import Rulebook.Json.Printer

/-!
# Expanding rules into drafts

`Draft.ofRule` writes a rule into the fields of a draft so that it can be edited. It accepts every
rule: a value that a field cannot show becomes a blank field. Each action draws a new local id.
-/

namespace Rulebook

/-- The text in which a JSON field shows a value. The field of a value that cannot be written is
blank. -/
def jsonFieldText (value : Json) : Json :=
  .str (if value.isWritable then String.ofList (value.print Json.pretty) else "")

/-- The text that the editor shows for the value of a parameter. -/
def Param.fieldText (param : Param) (value : Json) : Json :=
  match param.shape, value with
  | .json, .null => jsonFieldText (.obj [])
  | .json, value => jsonFieldText value
  | .lines, .arr items =>
      .str (String.ofList (Text.join ['\n'] ((items.filter (· != .null)).map Json.display)))
  | .lines, _ => .str ""
  | _, .null | _, .arr _ | _, .obj _ => .str ""
  | _, value => .str (String.ofList value.display)

/-- The value if it counts as filled in, as text; otherwise a default. -/
def textOr (value : Json) (fallback : String) : Json :=
  .str (if value.isTruthy then String.ofList value.display else fallback)

/-- The fields that the editor shows for an action; one of an unknown kind has its parameters in one
field. -/
def Action.draftFields (action : Action) (kind : Json) : Json.Fields :=
  match Catalog.actionTypeOf? kind with
  | some entry => Json.Fields.ofBindings (entry.params.map fun param =>
      (param.field, param.fieldText (action.params.field param.name)))
  | none =>
      let params := if action.params = .null then .obj [] else action.params
      [(Catalog.unknownField, jsonFieldText params)]

/-- The action as the editor takes it up, under this id. -/
def ActionDraft.ofAction (id : Json) (action : Action) : ActionDraft :=
  let kind := textOr action.type Catalog.defaultActionKind
  ⟨kind, action.draftFields kind, id⟩

/-- The drafts of actions, which draw the local ids of the numbers from `next` on. -/
def expandActions (next : Nat) : List Action → List ActionDraft
  | [] => []
  | action :: rest => ActionDraft.ofAction (localId next) action :: expandActions (next + 1) rest

/-- The draft of a rule; the second component is the next free number. -/
def Draft.ofRule (next : Nat) (rule : Rule) : Draft × Nat :=
  ({ id := rule.id
     name := textOr rule.name ""
     active := .bool rule.isActive
     triggerType := textOr rule.trigger.type Catalog.defaultTriggerType
     triggerParams :=
       if rule.trigger.params = .null then .str "" else jsonFieldText rule.trigger.params
     conditions := some (.ofConditions rule.trigger.conditions)
     actions := expandActions next rule.actions },
    next + rule.actions.length)

/-- The draft of a value from the backend: `null` gives the draft of a new rule. -/
def Draft.ofPayload (next : Nat) (payload : Json) : Draft × Nat :=
  if payload = .null then Draft.empty next else Draft.ofRule next (.ofPayload payload)

end Rulebook
