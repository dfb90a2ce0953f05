import Rulebook.Text.Digit
import Rulebook.Text.Lines

/-!
# Faults in JSON text

A fault names its cause and how many characters were left from the fault to the end of the text,
so that readers need not count. The message turns this into a line, a column and a position, all
counted in characters; lines and columns start at one.
-/

namespace Rulebook.Json

/-- Why a text is not JSON. -/
inductive FaultCause
  | expectedValue
  | expectedName
  /-- A colon was due after the name of a field. -/
  | expectedColon
  | expectedComma
  | unterminatedText
  | controlCharacter
  /-- A backslash is followed by a character that is no escape. -/
  | badEscape
  /-- An escape for a code unit has no four hexadecimal digits. -/
  | badUnitEscape
  /-- Something follows the value. -/
  | extraData
  | byteOrderMark
  /-- A whole number has more digits than are converted. -/
  | tooManyDigits (count : Nat)
deriving DecidableEq, Repr, Inhabited

/-- A cause and the number of characters from the fault to the end of the text. -/
structure Fault where
  /-- Why the text is not JSON. -/
  cause : FaultCause
  /-- How many characters were left. -/
  left : Nat
deriving DecidableEq, Repr, Inhabited

/-- A fault at the beginning of what is left of the text. -/
def Fault.here (cause : FaultCause) (rest : List Char) : Fault :=
  ⟨cause, rest.length⟩

/-- How a message words the cause. -/
def FaultCause.wording : FaultCause → String
  | expectedValue => "Expecting value"
  | expectedName => "Expecting property name enclosed in double quotes"
  | expectedColon => "Expecting ':' delimiter"
  | expectedComma => "Expecting ',' delimiter"
  | unterminatedText => "Unterminated string starting at"
  | controlCharacter => "Invalid control character at"
  | badEscape => "Invalid \\escape"
  | badUnitEscape => "Invalid \\uXXXX escape"
  | extraData => "Extra data"
  | byteOrderMark => "Unexpected UTF-8 BOM (decode using utf-8-sig)"
  | tooManyDigits _ => "Too many digits"

/-- The most digits of a whole number that are converted. -/
def digitLimit : Nat := 4300

/-- The message for a whole number with more digits than are converted. -/
def digitLimitMessage (count : Nat) : List Char :=
  "Exceeds the limit (4300 digits) for integer string conversion: value has ".toList ++
    Text.decimal count ++
    " digits; use sys.set_int_max_str_digits() to increase the limit".toList

/-- The text of a fault, with the place in the text where it was found. -/
def Fault.message (text : List Char) (fault : Fault) : List Char :=
  match fault.cause with
  | .tooManyDigits count => digitLimitMessage count
  | cause =>
      let position := text.length - fault.left
      let (line, column) := Text.lineAndColumn text position
      cause.wording.toList ++ ": line ".toList ++ Text.decimal line ++
        " column ".toList ++ Text.decimal column ++
        " (char ".toList ++ Text.decimal position ++ ")".toList

end Rulebook.Json
