import Rulebook.Catalog
import Rulebook.Rule

/-!
# Rule drafts

A draft is a rule while it is being written: every field holds what was typed. Drafted actions
carry a local id, drawn from a counter, that stays with an action while it is moved and edited.
The fields of a draft are JSON values, because a form may hand over any of them; a field that
holds no text is read by its display text.
-/

namespace Rulebook

/-- The local id with a number: the number in sixteen hexadecimal digits. -/
def localId (number : Nat) : Json :=
  .str (String.ofList ("act_".toList ++ Text.hexadecimal 16 number))

/-- What was typed into the fields of the five conditions. -/
structure ConditionDraft where
  field : ConditionKey → Json

namespace ConditionDraft

/-- The form before anything is typed. -/
def blank : ConditionDraft := ⟨fun _ => .str ""⟩

/-- The form with one more value typed. -/
def set (draft : ConditionDraft) (key : ConditionKey) (value : Json) : ConditionDraft :=
  ⟨fun other => if other = key then value else draft.field other⟩

/-- The draft whose fields have the values of an object; fields that it does not have are empty. -/
def ofFields (fields : Json.Fields) : ConditionDraft :=
  ⟨fun key => (fields.get? key.name).getD (.str "")⟩

instance : Inhabited ConditionDraft := ⟨blank⟩

end ConditionDraft

/-- An action as the editor holds it: what is typed into each of its fields. -/
structure ActionDraft where
  /-- The kind, as typed or chosen. -/
  type : Json
  fields : Json.Fields
  /-- The id under which the editor knows the action. -/
  localId : Json
deriving DecidableEq, Repr, Inhabited

/-- The text of a field; an absent field is empty. -/
def ActionDraft.text (action : ActionDraft) (field : String) : List Char :=
  match action.fields.get field with
  | .null => []
  | value => value.display

/-- A rule while it is being written. -/
structure Draft where
  /-- The identity of the rule that is edited; `null` for a new rule. -/
  id : Json
  name : Json
  active : Json
  triggerType : Json
  /-- The parameters of the event, as JSON text. -/
  triggerParams : Json
  /-- The conditions, where the form has fields for them. -/
  conditions : Option ConditionDraft
  actions : List ActionDraft
deriving Inhabited

/-- A draft in which nothing is filled in but what a new rule starts with. -/
def Draft.fresh : Draft where
  id := .null
  name := .str ""
  active := .bool true
  triggerType := .str Catalog.defaultTriggerType
  triggerParams := .str ""
  conditions := some .blank
  actions := []

/-- The draft of a new rule, with one action of the default kind that takes the local id of the
given number; the second component is the next free number. -/
def Draft.empty (next : Nat) : Draft × Nat :=
  let kind := Json.str Catalog.defaultActionKind
  ({ Draft.fresh with actions := [⟨kind, Catalog.defaultFields kind, localId next⟩] }, next + 1)

end Rulebook
