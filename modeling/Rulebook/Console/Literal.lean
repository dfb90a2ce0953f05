import Rulebook.Text.Blank
import Rulebook.Text.Digit

/-!
# Literal values

The handler of a tag is called with values that are written out: numbers, quoted texts, constants,
tuples, dictionaries and sets. This file decides whether a text is such a value; what the value is
does not matter. A complex number is a real one, perhaps with a sign, and an imaginary one without.
Keys and the members of sets may hold no dictionary and no set.
-/

namespace Rulebook.Console.Literal

/-- What a value is, as far as it decides where the value may stand. -/
inductive Kind
  /-- A number without an imaginary part; the flag says that it has a sign. -/
  | real ( isSigned : Bool)
  /-- An imaginary number; the flag says that it has a sign. -/
  | imaginary ( isSigned : Bool)
  /-- A quoted text; the flag says that it is one of bytes. -/
  | quoted ( isBytes : Bool)
  /-- Any other value; the flag says that it may be a key. -/
  | other (hashable : Bool)
deriving DecidableEq, Repr, Inhabited

/-- The value may be a key. -/
def Kind.isHashable : Kind → Bool
  | other hashable => hashable
  | _ => true

/-- What has been read, and what follows it. -/
abbrev Result := Option (Kind × List Char)

/-- Whether the character may stand in a name. -/
def isNameChar (character : Char) : Bool :=
  character.isAlphanum || character == '_' || 0x80 ≤ character.toNat

/-- A text without the blanks in front, among them ends of lines within brackets, and comments. -/
def skip (inside : Bool) : ( isComment : Bool) → List Char → List Char
  | _, [] => []
  | isComment, character :: rest =>
      if character = '\n' then
        if inside then skip inside false rest else character :: rest
      else if isComment then skip inside true rest
      else if character = '#' then skip inside true rest
      else if [' ', '\t', '\x0c'].contains character then skip inside false rest
      else character :: rest

/-! ## Numbers -/

/-- Digits, between which single underscores may stand, and what follows them. -/
def digitPart (isDigit : Char → Bool) : List Char → List Char × List Char
  | '_' :: character :: rest =>
      if isDigit character then
        let (digits, after) := digitPart isDigit rest
        (character :: digits, after)
      else ([], '_' :: character :: rest)
  | character :: rest =>
      if isDigit character then
        let (digits, after) := digitPart isDigit rest
        (character :: digits, after)
      else ([], character :: rest)
  | [] => ([], [])

/-- Digits of a number, which do not begin with an underscore. -/
def leadingDigits (text : List Char) : List Char × List Char :=
  match text with
  | '_' :: _ => ([], text)
  | _ => digitPart Char.isDigit text

/-- The base that the letter behind a zero asks for. -/
def baseDigits? (letter : Char) : Option (Char → Bool) :=
  match letter.toLower with
  | 'x' => some fun digit => (Text.hexValue? digit).isSome
  | 'o' => some fun digit => '0' ≤ digit && digit ≤ '7'
  | 'b' => some fun digit => digit == '0' || digit == '1'
  | _ => none

/-- Whether an exponent stands first, and the text after it. -/
def exponent (text : List Char) : Bool × List Char :=
  match text with
  | mark :: rest =>
      if mark.toLower = 'e' then
        let unsigned := match rest with
          | '+' :: after | '-' :: after => after
          | _ => rest
        match leadingDigits unsigned with
        | ([], _) => (false, text)
        | (_, after) => (true, after)
      else (false, text)
  | [] => (false, text)

/-- A decimal number. A whole number may not begin with a zero unless it is zero, and has at most
4300 digits. -/
def decimalNumber (text : List Char) : Result :=
  let (whole, rest) := leadingDigits text
  let (hasPoint, fraction, rest) := match rest with
    | '.' :: after =>
        let (digits, after) := leadingDigits after
        (true, digits, after)
    | _ => (false, [], rest)
  let (hasExponent, rest) := exponent rest
  if whole.isEmpty && fraction.isEmpty then none
  else match rest with
    | 'j' :: after | 'J' :: after => some (.imaginary false, after)
    | _ =>
        let isFloat := hasPoint || hasExponent
        let isZero := whole.all fun digit => digit == '0'
        if isFloat || isZero || (whole.head? != some '0' && whole.length ≤ 4300) then
          some (.real false, rest)
        else none

/-- A number; no name may follow at once. -/
def number (text : List Char) : Result :=
  let read : Result := match text with
    | '0' :: letter :: rest =>
        match baseDigits? letter with
        | some isDigit =>
            match digitPart isDigit rest with
            | ([], _) => none
            | (_, after) => some (.real false, after)
        | none => decimalNumber text
    | _ => decimalNumber text
  match read with
  | some (kind, after) => if (after.head?).any isNameChar then none else some (kind, after)
  | none => none

/-! ## Quoted texts -/

/-- How many hexadecimal digits a letter behind a backslash asks for. -/
def escapeLength (isBytes : Bool) (letter : Char) : Nat :=
  match letter with
  | 'x' => 2
  | 'u' => if isBytes then 0 else 4
  | 'U' => if isBytes then 0 else 8
  | _ => 0

/-- The escape behind a backslash can be read. -/
def isEscape ( isBytes : Bool) (text : List Char) : Bool :=
  match text with
  | [] => false
  | letter :: rest =>
      let count := escapeLength isBytes letter
      let values := (rest.take count).filterMap Text.hexValue?
      values.length = count && Text.numberInBase 16 values < 0x110000

/-- What follows the end of a quoted text, of which `skipped` characters have been looked at. -/
def afterQuote (close : List Char) ( isRaw isBytes : Bool) :
    (skipped : Nat) → List Char → Option (List Char)
  | _, [] => none
  | skipped + 1, _ :: rest => afterQuote close isRaw isBytes skipped rest
  | 0, character :: rest =>
      if close.isPrefixOf (character :: rest) then some (rest.drop (close.length - 1))
      else if character = '\\' then
        if isRaw || isEscape isBytes rest then afterQuote close isRaw isBytes 1 rest else none
      else if character = '\n' ∧ close.length = 1 then none
      else if isBytes ∧ 0x80 ≤ character.toNat then none
      else afterQuote close isRaw isBytes 0 rest

/-- Reads a text in quotes, whatever letters stand before them. -/
def quoted (text : List Char) : Result :=
  let letters := text.takeWhile Char.isAlpha
  let flags := letters.map Char.toLower
  let isBytes := flags.contains 'b'
  let isRaw := flags.contains 'r'
  if !([[], ['r'], ['u'], ['b'], ['b', 'r'], ['r', 'b']].contains flags) then none
  else
    let body := text.drop letters.length
    let closed? := match body with
      | quote :: _ =>
          if quote = '"' ∨ quote = '\x27' then
            let triple := [quote, quote, quote]
            if triple.isPrefixOf body then afterQuote triple isRaw isBytes 0 (body.drop 3)
            else afterQuote [quote] isRaw isBytes 0 (body.drop 1)
          else none
      | [] => none
    closed?.map fun after => (.quoted isBytes, after)

/-- Quoted texts that stand side by side, after one of a kind. They are all of that kind. -/
def moreQuoted (inside : Bool) (kind : Kind) : (bound : Nat) → List Char → Result
  | 0, _ => none
  | bound + 1, text =>
      let next := skip inside false text
      match quoted next with
      | none =>
          let isQuote := (next.dropWhile Char.isAlpha).head?.any fun quote =>
            quote == '"' || quote == '\x27'
          if isQuote then none else some (kind, text)
      | some (other, after) => if other = kind then moreQuoted inside kind bound after else none

/-! ## Values -/

/-- Reads a constant that is written as a word, or the empty set. -/
def named (text : List Char) : Result :=
  let name := text.takeWhile isNameChar
  let after := text.drop name.length
  if ["True", "False", "None"].contains (String.ofList name) then some (.other true, after)
  else if "...".toList.isPrefixOf text then some (.other true, text.drop 3)
  else if name = "set".toList then
    match skip false false after with
    | '(' :: rest =>
        match skip true false rest with
        | ')' :: rest => some (.other false, rest)
        | _ => none
    | _ => none
  else none

mutual

/-- A value in brackets, a quoted text, a number or a constant. -/
def atom (inside : Bool) : (bound : Nat) → List Char → Result
  | 0, _ => none
  | bound + 1, text =>
      match text with
      | '(' :: rest =>
          match skip true false rest with
          | ')' :: after => some (.other true, after)
          | first => items ')' none bound first
      | '\x7b' :: rest =>
          match skip true false rest with
          | '\x7d' :: after => some (.other false, after)
          | first => entries none bound first
      | _ =>
          match quoted text with
          | some (kind, after) => moreQuoted inside kind bound after
          | none => (number text).or (named text)

/-- A number with a sign in front, or an atom. -/
def signed (inside : Bool) : (bound : Nat) → List Char → Result
  | 0, _ => none
  | bound + 1, text =>
      let negated (rest : List Char) : Result :=
        match atom inside bound (skip inside false rest) with
        | some (.real false, after) => some (.real true, after)
        | some (.imaginary false, after) => some (.imaginary true, after)
        | _ => none
      match text with
      | '+' :: rest | '-' :: rest => negated rest
      | _ => atom inside bound text

/-- A value: a signed one, or a complex number. -/
def value (inside : Bool) : (bound : Nat) → List Char → Result
  | 0, _ => none
  | bound + 1, text =>
      match signed inside bound text with
      | none => none
      | some (kind, after) =>
          let complex (rest : List Char) : Result :=
            match kind, atom inside bound (skip inside false rest) with
            | .real _, some (.imaginary false, after) => some (.other true, after)
            | _, _ => none
          match skip inside false after with
          | '+' :: rest | '-' :: rest => complex rest
          | _ => some (kind, after)

/-- The values of a tuple up to its end, after those before it: whether they may all be keys. One
value without a comma is that value. -/
def items (close : Char) (before : Option Bool) : (bound : Nat) → List Char → Result
  | 0, _ => none
  | bound + 1, text =>
      match value true bound text with
      | none => none
      | some (kind, after) =>
          let hashable := before.getD true && kind.isHashable
          match skip true false after with
          | ',' :: rest =>
              match skip true false rest with
              | character :: after =>
                  if character = close then some (.other hashable, after)
                  else items close (some hashable) bound (character :: after)
              | [] => none
          | character :: after =>
              if character = close then
                some (if before.isNone then kind else .other hashable, after)
              else none
          | [] => none

/-- The entries of a dictionary or a set up to its end; the flag says which, once it is known. -/
def entries ( isDictionary : Option Bool) : (bound : Nat) → List Char → Result
  | 0, _ => none
  | bound + 1, text =>
      match value true bound text with
      | none => none
      | some (key, after) =>
          let entry : Option (Bool × List Char) :=
            match skip true false after with
            | ':' :: rest =>
                (value true bound (skip true false rest)).map fun (_, after) =>
                  (true, skip true false after)
            | rest => some (false, rest)
          match entry with
          | none => none
          | some (hasValue, rest) =>
              if !key.isHashable || isDictionary.any (· != hasValue) then none
              else match rest with
                | '\x7d' :: after => some (.other false, after)
                | ',' :: rest =>
                    match skip true false rest with
                    | '\x7d' :: after => some (.other false, after)
                    | next => entries (some hasValue) bound next
                | _ => none

end

/-- Values separated by commas, up to the end of the text. -/
def sequence : (bound : Nat) → List Char → Bool
  | 0, _ => false
  | bound + 1, text =>
      match value false bound text with
      | none => false
      | some (_, after) =>
          match skip false false after with
          | ',' :: rest =>
              let next := skip false false rest
              (skip true false next).isEmpty || sequence bound next
          | rest => (skip true false rest).isEmpty

/-- Whether the text is written as a literal, or as several between commas. -/
def isLiteral (text : List Char) : Bool :=
  !text.contains '\x00' && sequence (4 * text.length + 8)
    (text.dropWhile fun character => character == ' ' || character == '\t')

end Rulebook.Console.Literal
