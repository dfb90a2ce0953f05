import Rulebook.Number.Reading
import Rulebook.Toml.Basic

/-!
# Names, texts, numbers and dates in TOML

The scanners for the parts of a statement that hold no other values. Each returns what it read and
what is left of the text.
-/

namespace Rulebook.Toml

/-- The character is a blank within a line. -/
def isSpace (character : Char) : Bool :=
  character == ' ' || character == '\t'

/-- What is left after the spaces in front. -/
def skipSpace (text : List Char) : List Char :=
  text.dropWhile isSpace

/-- A control character that may not stand in a text, a comment or a name: all but the tab. -/
def isIllegal (character : Char) : Bool :=
  (character.toNat < 0x20 || character.toNat == 0x7F) && character != '\t'

/-- A control character that may not stand in a text of several lines. -/
def isIllegalInLines (character : Char) : Bool :=
  isIllegal character && character != '\n'

/-- A character of a name without quotes. -/
def isBareKeyChar (character : Char) : Bool :=
  character.isAlphanum || character == '-' || character == '_'

/-! ### Comments -/

/-- What is left after a comment, if one begins here. -/
def skipComment (text : List Char) : Except Fault (List Char) :=
  match text with
  | '#' :: comment =>
      match comment.dropWhile fun character => !isIllegal character with
      | [] => .ok []
      | '\n' :: rest => .ok ('\n' :: rest)
      | character :: rest => .error (.here (.invalidCharacter character) (character :: rest))
  | _ => .ok text

/-- What is left after spaces, line ends and comments, where the first argument says whether the
text begins inside a comment. -/
def skipBetween : (inComment : Bool) → List Char → Except Fault (List Char)
  | _, [] => .ok []
  | true, character :: rest =>
      if character = '\n' then skipBetween false rest
      else if isIllegal character then
        .error (.here (.invalidCharacter character) (character :: rest))
      else skipBetween true rest
  | false, character :: rest =>
      if isSpace character || character == '\n' then skipBetween false rest
      else if character = '#' then skipBetween true rest
      else .ok (character :: rest)

/-! ### Texts -/

/-- The character of a hexadecimal escape, which takes as many digits as it has. -/
def hexEscape (digits rest : List Char) (count : Nat) : Except Fault Char :=
  match digits.mapM Text.hexValue? with
  | none => .error (.here .invalidHex (digits ++ rest))
  | some values =>
      let code := Text.numberInBase 16 values
      if digits.length < count then .error (.here .invalidHex (digits ++ rest))
      else if code < 0xD800 ∨ (0xE000 ≤ code ∧ code < 0x110000) then .ok (Char.ofNat code)
      else .error (.here .noCharacter rest)

/-- The character that a one-letter escape stands for. -/
def simpleEscape? : Char → Option Char
  | 'b' => some '\x08'
  | 't' => some '\t'
  | 'n' => some '\n'
  | 'f' => some '\x0c'
  | 'r' => some '\r'
  | '"' => some '"'
  | '\\' => some '\\'
  | _ => none

/-- What the escape after a backslash stands for, and how many characters it takes. In a text of
several lines a backslash before the end of a line takes all white space that follows. -/
def scanEscape (inLines : Bool) (text : List Char) : Except Fault (List Char × Nat) :=
  match text with
  | [] => .error (.here .strayBackslash [])
  | letter :: rest =>
      if inLines && (isSpace letter || letter == '\n') then
        match skipSpace text with
        | [] => .ok ([], text.length)
        | '\n' :: more =>
            .ok ([], text.length -
              (more.dropWhile fun character => isSpace character || character == '\n').length)
        | other => .error (.here .strayBackslash other)
      else if letter = 'u' then
        (hexEscape (rest.take 4) (rest.drop 4) 4).map fun character => ([character], 5)
      else if letter = 'U' then
        (hexEscape (rest.take 8) (rest.drop 8) 8).map fun character => ([character], 9)
      else match simpleEscape? letter with
        | some character => .ok ([character], 1)
        | none => .error (.here .strayBackslash rest)

/-- Reads a text with escapes after its opening quotes and returns it with what is left after the
closing quotes. The second argument counts the characters that an escape has already taken. -/
def scanBasic (inLines : Bool) : (taken : Nat) → List Char →
    Except Fault (List Char × List Char)
  | _, [] => .error (.here .unterminated [])
  | taken + 1, _ :: rest => scanBasic inLines taken rest
  | 0, character :: rest =>
      if character = '"' then
        if !inLines then .ok ([], rest)
        else match rest with
          | '"' :: '"' :: left => .ok ([], left)
          | _ => (scanBasic inLines 0 rest).map fun (read, left) => ('"' :: read, left)
      else if character = '\\' then
        match scanEscape inLines rest with
        | .error fault => .error fault
        | .ok (piece, taken) =>
            (scanBasic inLines taken rest).map fun (read, left) => (piece ++ read, left)
      else if isIllegal character && !(inLines && character == '\n') then
        .error (.here (.illegalCharacter character) (character :: rest))
      else (scanBasic inLines 0 rest).map fun (read, left) => (character :: read, left)
termination_by structural _ text => text

/-- What stands before the first separator and what follows it. -/
def cutAtText (separator : List Char) : List Char → Option (List Char × List Char)
  | [] => none
  | character :: rest =>
      if separator.isPrefixOf (character :: rest) then
        some ([], (character :: rest).drop separator.length)
      else (cutAtText separator rest).map fun (before, after) => (character :: before, after)

/-- Reads a text without escapes after its opening quotes. -/
def scanLiteral (inLines : Bool) (text : List Char) : Except Fault (List Char × List Char) :=
  let quotes := if inLines then "'''" else "'"
  let isWrong := if inLines then isIllegalInLines else isIllegal
  match cutAtText quotes.toList text with
  | none => .error (.here (.missingQuotes quotes) [])
  | some (content, rest) =>
      match content.any isWrong, text.dropWhile fun character => !isWrong character with
      | true, wrong :: more => .error (.here (.invalidCharacter wrong) (wrong :: more))
      | _, _ => .ok (content, rest)

/-- A text of several lines may end in up to two quotes of its own before its closing quotes. -/
def withTrailingQuotes (quote : Char) (read rest : List Char) : List Char × List Char :=
  match rest with
  | first :: second :: left =>
      if first = quote then
        if second = quote then (read ++ [quote, quote], left) else (read ++ [quote], second :: left)
      else (read, rest)
  | [first] => if first = quote then (read ++ [quote], []) else (read, rest)
  | [] => (read, rest)

/-- The text without the line end it begins with. -/
def dropLineEnd : List Char → List Char
  | '\n' :: rest => rest
  | text => text

/-- Reads the text that begins with quotes, if quotes stand here. -/
def scanText? (text : List Char) : Option (Except Fault (List Char × List Char)) :=
  match text with
  | '"' :: '"' :: '"' :: rest =>
      some ((scanBasic true 0 (dropLineEnd rest)).map fun (read, left) =>
        withTrailingQuotes '"' read left)
  | '"' :: rest => some (scanBasic false 0 rest)
  | '\'' :: '\'' :: '\'' :: rest =>
      some ((scanLiteral true (dropLineEnd rest)).map fun (read, left) =>
        withTrailingQuotes '\'' read left)
  | '\'' :: rest => some (scanLiteral false rest)
  | _ => none

/-! ### Keys -/

/-- Reads a name: bare or in quotes. -/
def scanName (text : List Char) : Except Fault (String × List Char) :=
  let named (result : Except Fault (List Char × List Char)) : Except Fault (String × List Char) :=
    result.map fun (read, left) => (String.ofList read, left)
  match text with
  | '"' :: rest => named (scanBasic false 0 rest)
  | '\'' :: rest => named (scanLiteral false rest)
  | _ =>
      match text.takeWhile isBareKeyChar with
      | [] => .error (.here .keyStart text)
      | name => .ok (String.ofList name, text.dropWhile isBareKeyChar)

/-- Reads the names of a key with points between them, and the space after it. The first argument
bounds the number of names. -/
def scanNames : (bound : Nat) → List Char → Except Fault (Key × List Char)
  | 0, text => .error (.here .keyStart text)
  | bound + 1, text =>
      match scanName text with
      | .error fault => .error fault
      | .ok (name, afterName) =>
          match skipSpace afterName with
          | '.' :: rest =>
              match scanNames bound (skipSpace rest) with
              | .error fault => .error fault
              | .ok (names, left) => .ok (name :: names, left)
          | left => .ok ([name], left)

/-- Reads a key and the space after it. -/
def scanKey (text : List Char) : Except Fault (Key × List Char) :=
  scanNames (text.length + 1) text

/-! ### Dates and times -/

/-- The number of exactly `count` digits in front of a text. -/
def scanFixed? (count : Nat) (text : List Char) : Option (Nat × List Char) :=
  match (text.take count).mapM Text.plainDigitValue? with
  | some digits =>
      if digits.length = count then some (Text.numberOfDigits digits, text.drop count) else none
  | none => none

/-- What follows a character that has to come first. -/
def expect? (character : Char) : List Char → Option (List Char)
  | first :: rest => if first = character then some rest else none
  | [] => none

/-- What is left after a time of day. -/
def scanTime? (text : List Char) : Option (List Char) := do
  let (hour, text) ← scanFixed? 2 text
  let text ← expect? ':' text
  let (minute, text) ← scanFixed? 2 text
  let text ← expect? ':' text
  let (second, text) ← scanFixed? 2 text
  if hour < 24 ∧ minute < 60 ∧ second < 60 then
    match text with
    | '.' :: decimals =>
        match Text.plainDigits decimals with
        | ([], _) => some text
        | (_, left) => some left
    | _ => some text
  else none

/-- What is left after the offset of a time of day, if one follows. -/
def skipOffset (text : List Char) : List Char :=
  match text with
  | 'Z' :: rest | 'z' :: rest => rest
  | sign :: rest =>
      if sign = '+' ∨ sign = '-' then
        let offset : Option (List Char) := do
          let (hour, text) ← scanFixed? 2 rest
          let text ← expect? ':' text
          let (minute, text) ← scanFixed? 2 text
          if hour < 24 ∧ minute < 60 then some text else none
        offset.getD text
      else text
  | [] => []

/-- What is left after the time of day that may follow a date. -/
def skipTimeOfDate (text : List Char) : List Char :=
  match text with
  | mark :: rest =>
      if mark = 'T' ∨ mark = 't' ∨ mark = ' ' then
        match scanTime? rest with
        | some left => skipOffset left
        | none => text
      else text
  | [] => []

/-- The number of days in a month. -/
def daysInMonth (year month : Nat) : Nat :=
  if month = 2 then
    if year % 4 = 0 ∧ (year % 100 ≠ 0 ∨ year % 400 = 0) then 29 else 28
  else if month = 4 ∨ month = 6 ∨ month = 9 ∨ month = 11 then 30
  else 31

/-- Reads a date with the time of day that may follow it: whether there is such a day, and what is
left. -/
def scanDate? (text : List Char) : Option (Bool × List Char) := do
  let (year, text) ← scanFixed? 4 text
  let text ← expect? '-' text
  let (month, text) ← scanFixed? 2 text
  let text ← expect? '-' text
  let (day, text) ← scanFixed? 2 text
  if 1 ≤ month ∧ month ≤ 12 ∧ 1 ≤ day ∧ day ≤ 31 then
    some (1 ≤ year && day ≤ daysInMonth year month, skipTimeOfDate text)
  else none

/-! ### Numbers -/

/-- The value of a digit in a base. -/
def digitBelow? (base : Nat) (character : Char) : Option Nat :=
  (Text.hexValue? character).filter (· < base)

/-- A number in base 16, 8 or 2 after its mark. -/
def scanBased? (text : List Char) : Option (Nat × List Char) :=
  let based (base : Nat) (rest : List Char) : Option (Nat × List Char) :=
    match Text.groupedDigits (digitBelow? base) rest with
    | ([], _) => none
    | (digits, left) => some (Text.numberInBase base digits, left)
  match text with
  | '0' :: 'x' :: rest => based 16 rest
  | '0' :: 'o' :: rest => based 8 rest
  | '0' :: 'b' :: rest => based 2 rest
  | _ => none

/-- The digits of the whole part of a decimal number: a zero, or digits that do not begin with
one. -/
def scanWhole? (text : List Char) : Option (List Nat × List Char) :=
  match text with
  | '0' :: rest => some ([0], rest)
  | _ =>
      match Text.groupedDigits Text.plainDigitValue? text with
      | ([], _) => none
      | found => some found

/-- The digits after a point, if a digit follows the point. -/
def scanDecimals? (text : List Char) : Option (List Nat × List Char) :=
  match text with
  | '.' :: rest =>
      match Text.groupedDigits Text.plainDigitValue? rest with
      | ([], _) => none
      | found => some found
  | _ => none

/-- The exponent, if a digit follows its mark and sign. -/
def scanExponent? (text : List Char) : Option (Int × List Char) :=
  match text with
  | mark :: rest =>
      if mark = 'e' ∨ mark = 'E' then
        let (negative, unsigned) := Text.cutSign rest
        match Text.groupedDigits Text.plainDigitValue? unsigned with
        | ([], _) => none
        | (digits, left) =>
            let magnitude : Int := Text.numberOfDigits digits
            some (if negative then -magnitude else magnitude, left)
      else none
  | [] => none

/-- The most digits of a decimal whole number that are converted. -/
def digitLimit : Nat := 4300

/-- Reads a decimal number, if one stands here. Without point and exponent it is whole. -/
def scanDecimal? (text : List Char) : Option (Except Fault (Toml × List Char)) :=
  let (negative, unsigned) := Text.cutSign text
  match scanWhole? unsigned with
  | none => none
  | some (whole, afterWhole) =>
      let (decimals, afterDecimals) := match scanDecimals? afterWhole with
        | some (digits, left) => (some digits, left)
        | none => (none, afterWhole)
      let (exponent, rest) := match scanExponent? afterDecimals with
        | some (exponent, left) => (some exponent, left)
        | none => (none, afterDecimals)
      match decimals, exponent with
      | none, none =>
          if digitLimit < whole.length then
            some (.error (.here (.tooManyDigits whole.length) text))
          else
            let magnitude : Int := Text.numberOfDigits whole
            some (.ok (int (if negative then -magnitude else magnitude), rest))
      | _, _ =>
          let digits := decimals.getD []
          some (.ok (real (Binary64.ofDecimal negative
            (Text.numberOfDigits (whole ++ digits)) (exponent.getD 0 - digits.length)), rest))

/-- Reads an infinity or the undefined number, if one stands here. -/
def scanNamedReal? (text : List Char) : Option (Toml × List Char) :=
  let (negative, unsigned) := Text.cutSign text
  match unsigned with
  | 'i' :: 'n' :: 'f' :: rest => some (real (.infinity negative), rest)
  | 'n' :: 'a' :: 'n' :: rest => some (real .undefined, rest)
  | _ => none

/-- Reads a truth value, a date or a number. -/
def scanScalar (text : List Char) : Except Fault (Toml × List Char) :=
  match text with
  | 't' :: 'r' :: 'u' :: 'e' :: rest => .ok (bool true, rest)
  | 'f' :: 'a' :: 'l' :: 's' :: 'e' :: rest => .ok (bool false, rest)
  | _ =>
      match scanDate? text with
      | some (true, rest) => .ok (moment, rest)
      | some (false, _) => .error (.here .invalidMoment text)
      | none =>
          match scanTime? text with
          | some rest => .ok (moment, rest)
          | none =>
              match scanBased? text with
              | some (number, rest) => .ok (int number, rest)
              | none =>
                  match scanDecimal? text with
                  | some result => result
                  | none =>
                      match scanNamedReal? text with
                      | some found => .ok found
                      | none => .error (.here .invalidValue text)

end Rulebook.Toml
