import Rulebook.Failure
import Rulebook.Json.Equality

/-!
# Objects from pairs

Where an object is expected, a list of pairs will do: each pair gives a name and a value. Names are
compared as values are, so `1`, `1.0` and `true` are one name; the last pair of a name wins and the
first one fixes its place and spelling. A text of two characters and an object of two fields count
as pairs as well.
-/

namespace Rulebook.Json

/-- The parts of a value that has some: the characters of a text, the items of a list, the names of
an object. -/
def parts? : Json → Option (List Json)
  | str text => some (text.toList.map fun character => .str (String.singleton character))
  | arr items => some items
  | obj fields => some (fields.map fun (name, _) => .str name)
  | _ => none

/-- The name and the value that the item at a place of a list gives. -/
def pairOf (index : Nat) (item : Json) : Except Failure (Json × Json) :=
  match item.parts? with
  | none => .error (.notPair index)
  | some [name, value] =>
      if name.isList || name.isObject then .error (.notName name) else .ok (name, value)
  | some parts => .error (.unevenPair index parts.length)

/-- Binds a name: in its place if it is there, at the end if it is new. -/
def bind (name value : Json) : List (Json × Json) → List (Json × Json)
  | [] => [(name, value)]
  | (other, old) :: rest =>
      if other.agrees name then (other, value) :: rest else (other, old) :: bind name value rest

/-- The bindings that the items of a list give, from the item at a place on. -/
def bindAll (index : Nat) (bound : List (Json × Json)) :
    List Json → Except Failure (List (Json × Json))
  | [] => .ok bound
  | item :: rest =>
      match pairOf index item with
      | .error failure => .error failure
      | .ok (name, value) => bindAll (index + 1) (bind name value bound) rest

/-- How a name that is no text is written. An infinite and the undefined number cannot be. -/
def fieldName : Json → Except Failure String
  | null => .ok "null"
  | bool value => .ok (if value then "true" else "false")
  | real value =>
      if value.isFinite then .ok (String.ofList value.text) else .error .numberOutOfRange
  | value => .ok (String.ofList value.display)

/-- The fields of an object, or those that a list of pairs gives. -/
def toFields (value : Json) : Except Failure Fields :=
  match value with
  | obj fields => .ok fields
  | _ =>
      match value.parts? with
      | none => .error (.notIterable value)
      | some items =>
          match bindAll 0 [] items with
          | .error failure => .error failure
          | .ok bound => bound.mapM fun (name, value) =>
              (fieldName name).map fun text => (text, value)

end Rulebook.Json
