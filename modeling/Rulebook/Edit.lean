import Rulebook.Expand
import Rulebook.Template

/-!
# Editing drafts

The operations of the rule editor. Each gives a new draft; operations that add actions draw local
ids from the counter and return the next free number. An operation on a local id that no action
has changes nothing. `Edit` names one operation with its arguments, which may hold any values, and
`Draft.apply` performs it.
-/

namespace Rulebook

/-- Whether the editor knows the action under this id. -/
def ActionDraft.hasId (action : ActionDraft) (id : Json) : Bool :=
  action.localId.agrees id

namespace Draft

/-- Appends an action of the kind, its fields at their defaults, under the next free id. -/
def addAction (draft : Draft) (next : Nat) (kind : Json) : Draft × Nat :=
  let action : ActionDraft := ⟨kind, Catalog.defaultFields kind, localId next⟩
  ({ draft with actions := draft.actions ++ [action] }, next + 1)

/-- Takes away the actions with this id. -/
def removeAction (draft : Draft) (id : Json) : Draft :=
  { draft with actions := draft.actions.filter fun action => !action.hasId id }

/-- Exchanges the items at two positions of a list; a position outside leaves the list as it is. -/
def exchange {α : Type} (items : List α) (i j : Nat) : List α :=
  match items[i]?, items[j]? with
  | some a, some b => (items.set i b).set j a
  | _, _ => items

/-- Exchanges the action with a local id with the one `offset` places further on. -/
def moveAction (draft : Draft) (id : Json) (offset : Int) : Draft :=
  match draft.actions.findIdx? fun action => action.hasId id with
  | none => draft
  | some index =>
      let target := (index : Int) + offset
      if target < 0 then draft
      else { draft with actions := exchange draft.actions index target.toNat }

/-- Changes the actions with this id, each in its place. -/
def mapAction (draft : Draft) (id : Json) (change : ActionDraft → ActionDraft) : Draft :=
  { draft with
    actions := draft.actions.map fun action =>
      if action.hasId id then change action else action }

/-- Gives an action another kind, with the fields of a new action of that kind. -/
def changeActionType (draft : Draft) (id kind : Json) : Draft :=
  draft.mapAction id fun action => ⟨kind, Catalog.defaultFields kind, action.localId⟩

/-- Types a value into one field of the actions with this id. -/
def setActionField (draft : Draft) (id : Json) (field : String) (value : Json) : Draft :=
  draft.mapAction id fun action => { action with fields := action.fields.set field value }

/-- Overwrites name, trigger, conditions and actions from a template. The identity and the switch
of the draft stay. -/
def applyTemplate (draft : Draft) (next : Nat) (template : Template) : Draft × Nat :=
  let actions := expandActions next template.actions
  ({ draft with
      name := if template.label.isEmpty then draft.name else .str template.label
      triggerType :=
        if template.triggerType.isEmpty then draft.triggerType else .str template.triggerType
      triggerParams := .str template.triggerParams
      conditions := some (template.conditions.foldl
        (fun conditions (key, text) => conditions.set key (.str text)) .blank)
      actions := if actions.isEmpty then draft.actions else actions },
    next + template.actions.length)

/-- Compiles the draft and opens the rule for editing again. -/
def reopen (draft : Draft) (next : Nat) : Except Failure (Draft × Nat) :=
  draft.compile.map (Draft.ofRule next)

/-- Types a value into the field of a condition; a draft without conditions has no such field. -/
def setCondition (draft : Draft) (key : ConditionKey) (value : Json) : Draft :=
  { draft with conditions := draft.conditions.map fun conditions => conditions.set key value }

end Draft

/-- One operation of the editor. -/
inductive Edit
  | add (kind : Json)
  | remove (id : Json)
  | move (id offset : Json)
  | changeType (id kind : Json)
  | setField (id : Json) (field : String) (value : Json)
  | template (key : Json)
  /-- Compiles the draft and opens the rule again. -/
  | reopen
  | setId (value : Json)
  | setName (value : Json)
  /-- Switches the rule on or off. -/
  | setActive (value : Json)
  | setTriggerType (value : Json)
  | setTriggerParams (value : Json)
  | setConditions (conditions : Option ConditionDraft)
  | setCondition (key : ConditionKey) (value : Json)
  | setActions (actions : List ActionDraft)
deriving Inhabited

namespace Draft

/-- How far an action at a place moves: the offset as a whole number, or nothing where the offset
leads out of the list. An offset that is no number fails, and so does one between two places. -/
def distance (length : Nat) (index : Option Nat) (offset : Json) : Except Failure (Option Int) :=
  match offset with
  | .int offset => .ok (some offset)
  | .bool offset => .ok (some (if offset then 1 else 0))
  | .real offset =>
      match index with
      | none => .ok none
      | some index =>
          if !offset.isZero && offset.atLeast (-index) && !offset.atLeast (length - index) then
            .error .brokenDistance
          else .ok none
  | other => .error (.notDistance other)

/-- Performs one operation. Values that cannot be an argument of the operation fail. -/
def apply (draft : Draft) (next : Nat) : Edit → Except Failure (Draft × Nat)
  | .add kind => (Catalog.checkName kind).map fun () => draft.addAction next kind
  | .remove id => .ok (draft.removeAction id, next)
  | .move id offset =>
      let index := draft.actions.findIdx? fun action => action.hasId id
      (distance draft.actions.length index offset).map fun
        | some offset => (draft.moveAction id offset, next)
        | none => (draft, next)
  | .changeType id kind =>
      if draft.actions.any fun action => action.hasId id then
        (Catalog.checkName kind).map fun () => (draft.changeActionType id kind, next)
      else .ok (draft, next)
  | .setField id field value => .ok (draft.setActionField id field value, next)
  | .template key =>
      match Template.find? key with
      | some template => .ok (draft.applyTemplate next template)
      | none => .error .unknownTemplate
  | .reopen => draft.reopen next
  | .setId value => .ok ({ draft with id := value }, next)
  | .setName value => .ok ({ draft with name := value }, next)
  | .setActive value => .ok ({ draft with active := value }, next)
  | .setTriggerType value => .ok ({ draft with triggerType := value }, next)
  | .setTriggerParams value => .ok ({ draft with triggerParams := value }, next)
  | .setConditions conditions => .ok ({ draft with conditions := conditions }, next)
  | .setCondition key value => .ok (draft.setCondition key value, next)
  | .setActions actions => .ok ({ draft with actions := actions }, next)

end Draft

end Rulebook
