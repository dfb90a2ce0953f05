import Rulebook.Text.Blank
import Rulebook.Text.Charset
import Rulebook.Text.Percent

/-!
# Parameters of media types

The type of a body may carry parameters, separated by semicolons, and one of them names the
character set of the body. The value of a parameter may be quoted. It may also be given in numbered
parts, and in parts whose characters are escaped, in which case it begins with the name of the
character set of those characters.
-/

namespace Rulebook.MediaType

/-- The pieces of a text between semicolons. A semicolon does not count while the quotes before it
are odd in number; a quote behind a backslash is no quote. -/
def pieces : ( isQuoted afterBackslash : Bool) → List Char → List (List Char)
  | _, _, [] => [[]]
  | isQuoted, afterBackslash, character :: rest =>
      if character = ';' ∧ !isQuoted then [] :: pieces false false rest
      else
        let isQuoted := if character = '"' ∧ !afterBackslash then !isQuoted else isQuoted
        match pieces isQuoted (character == '\\') rest with
        | [] => [[character]]
        | piece :: others => (character :: piece) :: others

/-- A text with every backslash or quote behind a backslash on its own. -/
def dropBackslash (escaped : Char) : List Char → List Char
  | '\\' :: next :: rest =>
      if next = escaped then escaped :: dropBackslash escaped rest
      else '\\' :: dropBackslash escaped (next :: rest)
  | character :: rest => character :: dropBackslash escaped rest
  | [] => []

/-- A text without the quotes or angle brackets around it. -/
def unquote (text : List Char) : List Char :=
  match text, text.getLast? with
  | '"' :: rest@(_ :: _), some '"' => dropBackslash '"' (dropBackslash '\\' rest.dropLast)
  | '<' :: rest@(_ :: _), some '>' => rest.dropLast
  | _, _ => text

/-- A parameter as it stands in a header. -/
structure Parameter where
  name : List Char
  /-- The value, empty where there is none. -/
  value : List Char
deriving DecidableEq, Repr, Inhabited

/-- The parameter written in a piece between semicolons. -/
def Parameter.ofPiece (piece : List Char) : Parameter :=
  match Text.cutAt '=' piece with
  | (name, some value) => ⟨(Text.trim name).map Char.toLower, Text.trim value⟩
  | (name, none) => ⟨Text.trim name, []⟩

/-- A part of a value that is spread over several parameters. -/
structure Part where
  number : Option Nat
  text : List Char
  isEscaped : Bool
deriving DecidableEq, Repr, Inhabited

/-- The name and the number that the name of a part consists of: words, a star, and perhaps digits
and another star. -/
def partName? (name : List Char) : Option (List Char × Option Nat) :=
  match Text.cutAt '*' name with
  | (word, some tail) =>
      let digits := tail.takeWhile Char.isDigit
      let isWord := word.all fun character => character.isAlphanum || character == '_'
      let number := digits.foldl (fun number digit => number * 10 + (digit.toNat - 0x30)) 0
      if word.isEmpty || !isWord then none
      else if tail.isEmpty then some (word, none)
      else if digits.isEmpty then none
      else if tail = digits ∨ tail = digits ++ ['*'] then some (word, some number)
      else none
  | (_, none) => none

/-- The order of two parts: by number, then by text. -/
def Part.before (a b : Part) : Bool :=
  match a.number, b.number with
  | some m, some n =>
      m < n || (m == n && (a.text < b.text || (a.text == b.text && (!a.isEscaped || b.isEscaped))))
  | _, _ => a.text < b.text || (a.text == b.text && (!a.isEscaped || b.isEscaped))

/-- The value of a parameter. -/
inductive Value
  | plain (text : List Char)
  /-- A text whose characters are given by codes in a character set. -/
  | coded (charset text : List Char)
deriving DecidableEq, Repr, Inhabited

/-- The first part whose number is given where that of the part before is not, or the other way
round, tells whether it has a number. -/
def mixed? : List Part → Option Bool
  | a :: b :: rest =>
      if a.number.isSome = b.number.isSome then mixed? (b :: rest) else some b.number.isSome
  | _ => none

/-- The text of a part, with its codes read as characters. -/
def Part.read (part : Part) : List Char :=
  if part.isEscaped then
    (Text.percentDecodeBytes part.text).map fun byte => Char.ofNat byte.toNat
  else part.text

/-- The value that the parts give, put in their order. -/
def Value.ofParts (parts : List Part) : Except Text.CharsetFault Value :=
  match mixed? parts with
  | some numberLast => .error (.partsInDoubt numberLast)
  | none =>
      let sorted := parts.mergeSort Part.before
      let text := sorted.flatMap Part.read
      if sorted.any Part.isEscaped then
        match Text.cutAt '\x27' text with
        | (charset, some rest) =>
            match Text.cutAt '\x27' rest with
            | (_, some value) => .ok (.coded charset value)
            | (_, none) => .ok (.coded [] text)
        | (_, none) => .ok (.coded [] text)
      else .ok (.plain text)

/-- The parts that parameters give, by the names that they give them for. -/
def partsOf (parameters : List Parameter) : List (List Char × Part) :=
  parameters.filterMap fun parameter =>
    (partName? parameter.name).map fun (name, number) =>
      (name, ⟨number, unquote parameter.value, parameter.name.getLast? == some '*'⟩)

/-- The values of parameters: the whole ones in order, then those in parts. -/
def valuesOf (parameters : List Parameter) :
    Except Text.CharsetFault (List (List Char × Value)) :=
  let whole := (parameters.filter fun parameter => (partName? parameter.name).isNone).map
    fun parameter => (parameter.name, Value.plain (unquote parameter.value))
  let parts := partsOf parameters
  let names := (parts.map Prod.fst).eraseDups
  let valueOf (name : List Char) : Except Text.CharsetFault (List Char × Value) :=
    (Value.ofParts ((parts.filter fun (other, _) => other == name).map Prod.snd)).map (name, ·)
  (names.mapM valueOf).map (whole ++ ·)

/-- The text of a value. One in characters of an unknown set is taken as it stands. -/
def Value.text : Value → Except Text.CharsetFault (List Char)
  | .plain text => .ok text
  | .coded charset text =>
      if charset.contains '\x00' then .error .zeroInName
      else
        let name := if charset.isEmpty then "us-ascii".toList else charset
        let bytes := text.map fun character => UInt8.ofNat character.toNat
        .ok (((Text.Charset.ofName? name).bind fun known => known.decode? bytes).getD text)

/-- The name of the character set that a media type declares. -/
def charsetName (type : List Char) : Except Text.CharsetFault (Option (List Char)) := do
  match (pieces false false type).map Parameter.ofPiece with
  | [] => return none
  | first :: rest =>
      let values ← valuesOf rest
      let values := (first.name, Value.plain (unquote first.value)) :: values
      match values.find? fun (name, _) => name.map Char.toLower == "charset".toList with
      | none => return none
      | some (_, value) =>
          let name ← value.text
          return if name.all fun character => character.toNat < 0x80 then some name else none

/-- The character set that a media type declares, UTF-8 where it is none that is known. -/
def charset (type : List Char) : Except Text.CharsetFault Text.Charset := do
  match ← charsetName type with
  | none => return .utf8
  | some name =>
      if name.contains '\x00' then throw .zeroInName
      else return (Text.Charset.ofName? name).getD .utf8

end Rulebook.MediaType
