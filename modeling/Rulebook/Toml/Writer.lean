import Rulebook.Number.Shortest
import Rulebook.Toml.Basic

/-!
# Writing TOML documents

A document is written as sections of named values, with an empty line between two sections. Texts
stand in double quotes; control characters other than the tab are escaped.
-/

namespace Rulebook.Toml

/-- One character of a text in double quotes. -/
def writeChar (character : Char) : List Char :=
  if character = '"' then ['\\', '"']
  else if character = '\\' then ['\\', '\\']
  else if character = '\x08' then ['\\', 'b']
  else if character = '\n' then ['\\', 'n']
  else if character = '\x0c' then ['\\', 'f']
  else if character = '\r' then ['\\', 'r']
  else if character = '\t' then ['\t']
  else if character.toNat < 0x20 ∨ character.toNat = 0x7F then
    '\\' :: 'u' :: Text.hexadecimal 4 character.toNat
  else [character]

/-- The text in quotes. -/
def writeText (text : List Char) : List Char :=
  '"' :: text.flatMap writeChar ++ ['"']

/-- The word for a truth value. -/
def writeBool (value : Bool) : List Char :=
  (if value then "true" else "false").toList

/-- The line of a named value, given the text of the value. -/
def writeEntry (name : String) (value : List Char) : List Char :=
  name.toList ++ [' ', '=', ' '] ++ value ++ ['\n']

/-- A section, given the texts of its values. -/
def writeSection (name : String) (entries : List (String × List Char)) : List Char :=
  '[' :: name.toList ++ [']', '\n'] ++ entries.flatMap fun (name, value) => writeEntry name value

/-- The sections with empty lines between them. -/
def writeSections (sections : List (List Char)) : List Char :=
  Text.join ['\n'] sections

end Rulebook.Toml
