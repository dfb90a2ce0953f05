import Rulebook.Number.Binary64

/-!
# JSON values

Rule drafts, wire payloads, response bodies and settings all hold JSON values. A value keeps what
its text said: whole numbers are unbounded integers, other numbers are binary numbers, and the
fields of an object keep the order in which their names first appeared. This file gives the type,
equality, the truth value that decides whether a field counts as filled in, and the operations on
the fields of an object.
-/

namespace Rulebook

/-- A value of JSON. The fields of an object keep their order. -/
inductive Json
  | null
  | bool (value : Bool)
  | int (value : Int)
  | real (value : Binary64)
  | str (value : String)
  | arr (items : List Json)
  | obj (fields : List (String × Json))
deriving Repr, Inhabited

namespace Json

mutual

/-- Decides whether two values are the same. -/
def decideEq : (left right : Json) → Decidable (left = right)
  | null, null => isTrue rfl
  | bool a, bool b =>
      if same : a = b then isTrue (by rw [same])
      else isFalse (by intro equal; cases equal; exact same rfl)
  | int a, int b =>
      if same : a = b then isTrue (by rw [same])
      else isFalse (by intro equal; cases equal; exact same rfl)
  | real a, real b =>
      if same : a = b then isTrue (by rw [same])
      else isFalse (by intro equal; cases equal; exact same rfl)
  | str a, str b =>
      if same : a = b then isTrue (by rw [same])
      else isFalse (by intro equal; cases equal; exact same rfl)
  | arr a, arr b =>
      match decideEqItems a b with
      | isTrue same => isTrue (by rw [same])
      | isFalse differ => isFalse (by intro equal; cases equal; exact differ rfl)
  | obj a, obj b =>
      match decideEqFields a b with
      | isTrue same => isTrue (by rw [same])
      | isFalse differ => isFalse (by intro equal; cases equal; exact differ rfl)
  | null, bool _ | null, int _ | null, real _ | null, str _ | null, arr _ | null, obj _
  | bool _, null | bool _, int _ | bool _, real _ | bool _, str _ | bool _, arr _ | bool _, obj _
  | int _, null | int _, bool _ | int _, real _ | int _, str _ | int _, arr _ | int _, obj _
  | real _, null | real _, bool _ | real _, int _ | real _, str _ | real _, arr _ | real _, obj _
  | str _, null | str _, bool _ | str _, int _ | str _, real _ | str _, arr _ | str _, obj _
  | arr _, null | arr _, bool _ | arr _, int _ | arr _, real _ | arr _, str _ | arr _, obj _
  | obj _, null | obj _, bool _ | obj _, int _ | obj _, real _ | obj _, str _ | obj _, arr _ =>
      isFalse (by intro equal; cases equal)
termination_by structural left => left

/-- Decides whether two rows of values are the same. -/
def decideEqItems : (left right : List Json) → Decidable (left = right)
  | [], [] => isTrue rfl
  | [], _ :: _ | _ :: _, [] => isFalse (by intro equal; cases equal)
  | a :: left, b :: right =>
      match decideEq a b, decideEqItems left right with
      | isTrue sameHead, isTrue sameTail => isTrue (by rw [sameHead, sameTail])
      | isFalse differ, _ => isFalse (by intro equal; cases equal; exact differ rfl)
      | _, isFalse differ => isFalse (by intro equal; cases equal; exact differ rfl)
termination_by structural left => left

/-- Decides whether two lists of fields are the same, order included. -/
def decideEqFields : (left right : List (String × Json)) → Decidable (left = right)
  | [], [] => isTrue rfl
  | [], _ :: _ | _ :: _, [] => isFalse (by intro equal; cases equal)
  | (name, a) :: left, (other, b) :: right =>
      match (inferInstance : Decidable (name = other)), decideEq a b,
        decideEqFields left right with
      | isTrue sameName, isTrue sameHead, isTrue sameTail =>
          isTrue (by rw [sameName, sameHead, sameTail])
      | isFalse differ, _, _ => isFalse (by intro equal; cases equal; exact differ rfl)
      | _, isFalse differ, _ => isFalse (by intro equal; cases equal; exact differ rfl)
      | _, _, isFalse differ => isFalse (by intro equal; cases equal; exact differ rfl)
termination_by structural left => left

end

instance : DecidableEq Json := decideEq

/-- The fields of an object, in the order of their first appearance. -/
abbrev Fields := List (String × Json)

namespace Fields

/-- The value of the first field of a name. -/
def get? (fields : Fields) (name : String) : Option Json :=
  fields.lookup name

/-- The value of a field, `null` where it is missing. -/
def get (fields : Fields) (name : String) : Json :=
  (get? fields name).getD null

/-- Whether an object has a field of this name, whatever its value. -/
def has (fields : Fields) (name : String) : Bool :=
  (get? fields name).isSome

/-- Gives a field a value: in its place if it is there, at the end if it is new. -/
def set (name : String) (value : Json) : Fields → Fields
  | [] => [(name, value)]
  | (other, old) :: rest =>
      if other = name then (name, value) :: rest else (other, old) :: set name value rest

/-- The fields that a sequence of bindings leaves: the last binding of a name wins and the first
one fixes its place. -/
def ofBindings (bindings : List (String × Json)) : Fields :=
  bindings.foldl (fun fields (name, value) => fields.set name value) []

end Fields

/-- The fields of an object; other values have none. -/
def fields : Json → Fields
  | obj fields => fields
  | _ => []

/-- The value is an object. -/
def isObject : Json → Bool
  | obj _ => true
  | _ => false

/-- How messages name the type of a value. -/
def typeName : Json → String
  | null => "NoneType"
  | bool _ => "bool"
  | int _ => "int"
  | real _ => "float"
  | str _ => "str"
  | arr _ => "list"
  | obj _ => "dict"

/-- The value is a list. -/
def isList : Json → Bool
  | arr _ => true
  | _ => false

/-- The value of a field of an object, `null` where it is missing. -/
def field (value : Json) (name : String) : Json :=
  value.fields.get name

/-- The value counts as filled in: it is not `null`, `false`, a zero, or empty. -/
def isTruthy : Json → Bool
  | null => false
  | bool value => value
  | int value => value != 0
  | real value => !value.isZero
  | str value => !value.isEmpty
  | arr items => !items.isEmpty
  | obj fields => !fields.isEmpty

/-- The value itself if it counts as filled in, otherwise a fallback. -/
def orElse (value fallback : Json) : Json :=
  if value.isTruthy then value else fallback

mutual

/-- No number inside the value is infinite or undefined. -/
def isFinite : Json → Bool
  | real value => value.isFinite
  | arr items => itemsFinite items
  | obj fields => fieldsFinite fields
  | _ => true
termination_by structural value => value

/-- No number inside the items is infinite or undefined. -/
def itemsFinite : List Json → Bool
  | [] => true
  | item :: items => item.isFinite && itemsFinite items
termination_by structural items => items

/-- No number inside the fields is infinite or undefined. -/
def fieldsFinite : List (String × Json) → Bool
  | [] => true
  | (_, value) :: fields => value.isFinite && fieldsFinite fields
termination_by structural fields => fields

end

end Json

end Rulebook
