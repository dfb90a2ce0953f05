import Rulebook.Json.Basic
import Rulebook.Json.Syntax
import Rulebook.Number.Shortest
import Rulebook.Text.Quoted

/-!
# Writing JSON text

One printer serves all outputs; a `Layout` says what stands between the items and whether characters
outside ASCII are escaped. Three layouts are in use: `pretty` for fields that a person edits,
`spaced` for a line of text, and `compact` for request bodies. A whole number with more digits than
are converted has no text.
-/

namespace Rulebook.Json

/-- How JSON text is laid out. -/
structure Layout where
  /-- The number of spaces by which each level is indented; without it all stands on one line. -/
  indent : Option Nat
  /-- What follows an item that is not the last, on one line. -/
  itemGap : List Char
  /-- What stands between the name and the value of a field. -/
  nameGap : List Char
  /-- Whether characters outside ASCII are escaped. -/
  asciiOnly : Bool

/-- Two spaces a level, as the editor shows JSON fields. -/
def pretty : Layout := ⟨some 2, [','], [':', ' '], false⟩

/-- One line with spaces after commas and colons. -/
def spaced : Layout := ⟨none, [',', ' '], [':', ' '], false⟩

/-- One line of ASCII characters with spaces after commas and colons. -/
def spacedAscii : Layout := ⟨none, [',', ' '], [':', ' '], true⟩

/-- One line without spaces, as bodies are sent. -/
def compact : Layout := ⟨none, [','], [':'], false⟩

/-- The escape of one unit of UTF-16. -/
def unitEscape (unit : Nat) : List Char :=
  '\\' :: 'u' :: Text.hexadecimal 4 unit

/-- A character as escapes for its code units: two of them beyond the first plane. -/
def escapeUnits (character : Char) : List Char :=
  let code := character.toNat
  if code < 0x10000 then unitEscape code
  else
    let offset := code - 0x10000
    unitEscape (0xD800 + offset / 0x400) ++ unitEscape (0xDC00 + offset % 0x400)

/-- The character as it stands within quotes. -/
def literalChar (asciiOnly : Bool) (character : Char) : List Char :=
  if character = '"' then ['\\', '"']
  else if character = '\\' then ['\\', '\\']
  else if character = '\n' then ['\\', 'n']
  else if character = '\r' then ['\\', 'r']
  else if character = '\t' then ['\\', 't']
  else if character = '\x08' then ['\\', 'b']
  else if character = '\x0c' then ['\\', 'f']
  else if character.toNat < 0x20 then escapeUnits character
  else if asciiOnly && 0x7F ≤ character.toNat then escapeUnits character
  else [character]

/-- The text in quotes. -/
def literal (asciiOnly : Bool) (text : List Char) : List Char :=
  '"' :: text.flatMap (literalChar asciiOnly) ++ ['"']

/-- A binary number as JSON text: the numbers that JSON does not have are written by name. -/
def realText : Binary64 → List Char
  | .undefined => "NaN".toList
  | .infinity false => "Infinity".toList
  | .infinity true => "-Infinity".toList
  | number => number.text

/-- The line break before what stands at a level, in a layout that has lines. -/
def lineBreak (layout : Layout) (level : Nat) : List Char :=
  match layout.indent with
  | none => []
  | some width => '\n' :: List.replicate (width * level) ' '

mutual

/-- The text of a value whose first line begins at a level. -/
def write (layout : Layout) (level : Nat) : Json → List Char
  | null => "null".toList
  | bool value => (if value then "true" else "false").toList
  | int value => Text.signedDecimal value
  | real value => realText value
  | str value => literal layout.asciiOnly value.toList
  | arr [] => ['[', ']']
  | arr (item :: items) =>
      '[' :: lineBreak layout (level + 1) ++ write layout (level + 1) item ++
        writeItems layout (level + 1) items ++ lineBreak layout level ++ [']']
  | obj [] => ['\x7b', '\x7d']
  | obj ((name, value) :: fields) =>
      '\x7b' :: lineBreak layout (level + 1) ++ literal layout.asciiOnly name.toList ++
        layout.nameGap ++ write layout (level + 1) value ++
        writeFields layout (level + 1) fields ++ lineBreak layout level ++ ['\x7d']
termination_by structural value => value

/-- The further items of a list, each after a comma. -/
def writeItems (layout : Layout) (level : Nat) : List Json → List Char
  | [] => []
  | item :: items =>
      layout.itemGap ++ lineBreak layout level ++ write layout level item ++
        writeItems layout level items
termination_by structural items => items

/-- The further fields of an object, each after a comma. -/
def writeFields (layout : Layout) (level : Nat) : List (String × Json) → List Char
  | [] => []
  | (name, value) :: fields =>
      layout.itemGap ++ lineBreak layout level ++ literal layout.asciiOnly name.toList ++
        layout.nameGap ++ write layout level value ++ writeFields layout level fields
termination_by structural fields => fields

end

/-- The value written out in a layout. -/
def print (layout : Layout) (value : Json) : List Char :=
  write layout 0 value

mutual

/-- No whole number inside the value has more digits than are converted. -/
def isWritable : Json → Bool
  | int value => (Text.decimal value.natAbs).length ≤ digitLimit
  | arr items => itemsWritable items
  | obj fields => fieldsWritable fields
  | _ => true
termination_by structural value => value

/-- Every one of the items is writable. -/
def itemsWritable : List Json → Bool
  | [] => true
  | item :: items => item.isWritable && itemsWritable items
termination_by structural items => items

/-- Every one of the fields has a writable value. -/
def fieldsWritable : List (String × Json) → Bool
  | [] => true
  | (_, value) :: fields => value.isWritable && fieldsWritable fields
termination_by structural fields => fields

end

end Rulebook.Json
