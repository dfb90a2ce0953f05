import Rulebook.Text.Case
import Rulebook.Text.Digit
import Rulebook.Text.PrintableTable

/-!
# Quoted texts

A text inside a message or inside a displayed list stands in quotes: single quotes, unless the
text holds a single quote and no double quote. Backslashes, the surrounding quote and characters
with no visible form are escaped.
-/

namespace Rulebook.Text

/-- The character is shown as itself in a quoted text. -/
def isPrintable (character : Char) : Bool :=
  let code := character.toNat
  if code < 0x7F then 0x20 ≤ code else !inRanges unprintableRanges code

/-- A character by its code: two, four or eight hexadecimal digits. -/
def escapedCode (code : Nat) : List Char :=
  if code < 0x100 then '\\' :: 'x' :: hexadecimal 2 code
  else if code < 0x10000 then '\\' :: 'u' :: hexadecimal 4 code
  else '\\' :: 'U' :: hexadecimal 8 code

/-- One character of a text that stands between the given quotes. -/
def quotedChar (quote : Char) (character : Char) : List Char :=
  if character = quote ∨ character = '\\' then ['\\', character]
  else if character = '\n' then ['\\', 'n']
  else if character = '\r' then ['\\', 'r']
  else if character = '\t' then ['\\', 't']
  else if isPrintable character then [character]
  else escapedCode character.toNat

/-- The quote around a text: a double one where that saves escapes. -/
def quoteFor (text : List Char) : Char :=
  if '\'' ∈ text ∧ '"' ∉ text then '"' else '\''

/-- The text in quotes, with what cannot be shown in escapes. -/
def quoted (text : List Char) : List Char :=
  let quote := quoteFor text
  quote :: text.flatMap (quotedChar quote) ++ [quote]

/-- A text of code points in quotes; a code point that stands for no character is escaped. -/
def quotedCodes (codes : List Nat) : List Char :=
  let char? (code : Nat) : Option Char :=
    if code.isValidChar then some (Char.ofNat code) else none
  let quote := quoteFor (codes.filterMap char?)
  quote :: codes.flatMap (fun code => match char? code with
    | some character => quotedChar quote character
    | none => escapedCode code) ++ [quote]

end Rulebook.Text
