import Rulebook.Number.Binary64
import Rulebook.Text.Lines
import Rulebook.Text.Quoted

/-!
# TOML values and faults

The settings file is a TOML document: a table of named values, some of which are tables again. A
fault names its cause and how many characters were left of the text; its message gives the line
and column.
-/

namespace Rulebook

/-- A TOML value. Dates and times are not told apart. -/
inductive Toml
  | bool (value : Bool)
  | int (value : Int)
  | real (value : Binary64)
  | str (value : String)
  | moment
  | arr (items : List Toml)
  | table (entries : List (String × Toml))
deriving Repr, Inhabited

namespace Toml

/-- The values of a table under their names, in order. -/
abbrev Table := List (String × Toml)

/-- The names on the way to a value. -/
abbrev Key := List String

/-- The value is a list or a table. -/
def isNested : Toml → Bool
  | arr _ | table _ => true
  | _ => false

/-- Why a text is not a TOML document. -/
inductive FaultCause
  | invalidStatement
  /-- Something follows a statement on its line. -/
  | statementEnd
  | missingQuotes (quotes : String)
  /-- A control character stands in a comment or a literal text. -/
  | invalidCharacter (character : Char)
  /-- A control character stands in a text. -/
  | illegalCharacter (character : Char)
  /-- A table is declared a second time. -/
  | declaredTwice (key : Key)
  | overwritten
  /-- A value that is written in one piece is extended. -/
  | frozen (key : Key)
  /-- Dotted names extend a table that has a declaration of its own. -/
  | redefined (key : Key)
  | tableEnd
  /-- The declaration of an item of a list of tables has no closing brackets. -/
  | itemEnd
  | expectedEquals
  /-- A name begins with no such character. -/
  | keyStart
  /-- A list has no closing bracket. -/
  | unclosedArray
  /-- A name occurs twice in a table on one line. -/
  | duplicateName (name : String)
  /-- A table on one line has no closing brace. -/
  | unclosedTable
  | strayBackslash
  /-- An escape has too few hexadecimal digits. -/
  | invalidHex
  | noCharacter
  /-- A text does not end. -/
  | unterminated
  /-- There is no such day. -/
  | invalidMoment
  | invalidValue
  /-- A whole number has more digits than are converted. -/
  | tooManyDigits (count : Nat)
deriving DecidableEq, Repr, Inhabited

/-- A key as messages show it: the quoted names in parentheses, a single one with a comma. -/
def keyText (key : Key) : List Char :=
  match key with
  | [name] => '(' :: Text.quoted name.toList ++ [',', ')']
  | _ => '(' :: Text.join [',', ' '] (key.map fun name => Text.quoted name.toList) ++ [')']

/-- How a message words the cause. -/
def FaultCause.wording : FaultCause → List Char
  | invalidStatement => "Invalid statement".toList
  | statementEnd => "Expected newline or end of document after a statement".toList
  | missingQuotes quotes => "Expected ".toList ++ Text.quoted quotes.toList
  | invalidCharacter character => "Found invalid character ".toList ++ Text.quoted [character]
  | illegalCharacter character => "Illegal character ".toList ++ Text.quoted [character]
  | declaredTwice key => "Cannot declare ".toList ++ keyText key ++ " twice".toList
  | overwritten => "Cannot overwrite a value".toList
  | frozen key => "Cannot mutate immutable namespace ".toList ++ keyText key
  | redefined key => "Cannot redefine namespace ".toList ++ keyText key
  | tableEnd => "Expected ']' at the end of a table declaration".toList
  | itemEnd => "Expected ']]' at the end of an array declaration".toList
  | expectedEquals => "Expected '=' after a key in a key/value pair".toList
  | keyStart => "Invalid initial character for a key part".toList
  | unclosedArray => "Unclosed array".toList
  | duplicateName name => "Duplicate inline table key ".toList ++ Text.quoted name.toList
  | unclosedTable => "Unclosed inline table".toList
  | strayBackslash => "Unescaped '\\' in a string".toList
  | invalidHex => "Invalid hex value".toList
  | noCharacter => "Escaped character is not a Unicode scalar value".toList
  | unterminated => "Unterminated string".toList
  | invalidMoment => "Invalid date or datetime".toList
  | invalidValue => "Invalid value".toList
  | tooManyDigits _ => "Too many digits".toList

/-- A cause and the number of characters from the fault to the end of the text. -/
structure Fault where
  /-- Why the text is not a TOML document. -/
  cause : FaultCause
  /-- How many characters were left. -/
  left : Nat
deriving DecidableEq, Repr, Inhabited

/-- A fault at the beginning of what is left of the text. -/
def Fault.here (cause : FaultCause) (rest : List Char) : Fault :=
  ⟨cause, rest.length⟩

/-- The text of a fault, with the place in the text where it was found. -/
def Fault.message (text : List Char) (fault : Fault) : List Char :=
  let place :=
    if fault.left = 0 then "end of document".toList
    else
      let (line, column) := Text.lineAndColumn text (text.length - fault.left)
      "line ".toList ++ Text.decimal line ++ ", column ".toList ++ Text.decimal column
  fault.cause.wording ++ " (at ".toList ++ place ++ [')']

end Toml

end Rulebook
