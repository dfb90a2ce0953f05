import Rulebook.Json.Basic
import Rulebook.Number.Shortest
import Rulebook.Text.Blank
import Rulebook.Text.Quoted

/-!
# Values as plain text

Where a text is expected and another value stands, the value is read as its display text: a text
as itself, and everything else in a fixed notation for values. Inside lists and objects texts
stand in quotes. A field is *filled in* when its value counts as such, and its trimmed text is
then the display text without the blanks around it.
-/

namespace Rulebook.Json

mutual

/-- A value as it stands inside a list or an object. -/
def quoted : Json → List Char
  | null => "None".toList
  | bool value => (if value then "True" else "False").toList
  | int value => Text.signedDecimal value
  | real value => value.text
  | str value => Text.quoted value.toList
  | arr items => '[' :: quotedItems items ++ [']']
  | obj fields => '\x7b' :: quotedFields fields ++ ['\x7d']
termination_by structural value => value

/-- The items with commas between them. -/
def quotedItems : List Json → List Char
  | [] => []
  | [item] => item.quoted
  | item :: items => item.quoted ++ ',' :: ' ' :: quotedItems items
termination_by structural items => items

/-- The fields of an object, separated by commas. -/
def quotedFields : List (String × Json) → List Char
  | [] => []
  | [(name, value)] => Text.quoted name.toList ++ ':' :: ' ' :: value.quoted
  | (name, value) :: fields =>
      Text.quoted name.toList ++ ':' :: ' ' :: value.quoted ++ ',' :: ' ' :: quotedFields fields
termination_by structural fields => fields

end

/-- The value as a message shows it: a text as it is, any other value quoted. -/
def display : Json → List Char
  | str value => value.toList
  | value => value.quoted

/-- The display text of a value that is filled in; nothing otherwise. -/
def filledText (value : Json) : List Char :=
  if value.isTruthy then value.display else []

/-- What a field holds once the blanks around it are taken away. -/
def trimmedText (value : Json) : List Char :=
  Text.trim value.filledText

end Rulebook.Json
