import Rulebook.Number.Binary64

/-!
# Numbers that a person types

A typed number may have blanks around it, a sign, digits of any script, single underscores between
digits, a point, an exponent, or be one of the words for the infinities and the undefined number.
The readers return nothing for any other text. What differs between them, the form of a run of
digits, is a parameter of `realBy?`.
-/

namespace Rulebook.Text

/-- White space: the blanks without the four information separators. -/
def isSpacing (character : Char) : Bool :=
  let code := character.toNat
  (0x09 ≤ code && code ≤ 0x0D) || code == 0x20 || code == 0x85 || code == 0xA0 ||
    code == 0x1680 || (0x2000 ≤ code && code ≤ 0x200A) || code == 0x2028 || code == 0x2029 ||
    code == 0x202F || code == 0x205F || code == 0x3000

/-- A text without the white space around it. -/
def trimSpacing (text : List Char) : List Char :=
  ((text.dropWhile isSpacing).reverse.dropWhile isSpacing).reverse

/-- The sign in front of a text, and what is left. -/
def cutSign : List Char → Bool × List Char
  | '-' :: rest => (true, rest)
  | '+' :: rest => (false, rest)
  | text => (false, text)

/-- The values of the run of digits in front of a text, with single underscores allowed between
digits, and what is left. `value?` says which characters are digits. -/
def groupedDigits (value? : Char → Option Nat) : List Char → List Nat × List Char
  | [] => ([], [])
  | first :: '_' :: second :: rest =>
      match value? first with
      | none => ([], first :: '_' :: second :: rest)
      | some value =>
          if (value? second).isSome then
            let (values, left) := groupedDigits value? (second :: rest)
            (value :: values, left)
          else ([value], '_' :: second :: rest)
  | first :: rest =>
      match value? first with
      | none => ([], first :: rest)
      | some value =>
          let (values, left) := groupedDigits value? rest
          (value :: values, left)

/-- The value of a digit of ASCII. -/
def plainDigitValue? (character : Char) : Option Nat :=
  if '0' ≤ character ∧ character ≤ '9' then some (character.toNat - 0x30) else none

/-- The values of the run of the digits `0` to `9` in front of a text, and what is left. -/
def plainDigits : List Char → List Nat × List Char
  | [] => ([], [])
  | first :: rest =>
      match plainDigitValue? first with
      | none => ([], first :: rest)
      | some value =>
          let (values, left) := plainDigits rest
          (value :: values, left)

/-- The most digits of a whole number. -/
def integerDigits : Nat := 4300

/-- The whole number that a text denotes. -/
def integer? (text : List Char) : Option Int :=
  let (negative, unsigned) := cutSign (trimSpacing text)
  match groupedDigits digitValue? unsigned with
  | (first :: digits, []) =>
      if integerDigits ≤ digits.length then none
      else
        let magnitude : Int := numberOfDigits (first :: digits)
        some (if negative then -magnitude else magnitude)
  | _ => none

end Rulebook.Text

namespace Rulebook.Binary64

open Text

/-- The exponent that a text denotes: none at all, or a mark, a sign and digits. -/
def exponentBy? (run : List Char → List Nat × List Char) : List Char → Option Int
  | [] => some 0
  | mark :: rest =>
      if mark = 'e' ∨ mark = 'E' then
        let (negative, unsigned) := cutSign rest
        match run unsigned with
        | (first :: digits, []) =>
            let magnitude : Int := numberOfDigits (first :: digits)
            some (if negative then -magnitude else magnitude)
        | _ => none
      else none

/-- The number that a text without blanks denotes, where `run` reads a run of digits. -/
def realBy? (run : List Char → List Nat × List Char) (text : List Char) : Option Binary64 :=
  let (negative, unsigned) := cutSign text
  let word := unsigned.map Char.toLower
  if word = "inf".toList ∨ word = "infinity".toList then some (infinity negative)
  else if word = "nan".toList then some undefined
  else
    let (whole, afterWhole) := run unsigned
    let (decimals, afterDecimals) := match afterWhole with
      | '.' :: rest => run rest
      | _ => ([], afterWhole)
    if whole.isEmpty && decimals.isEmpty then none
    else (exponentBy? run afterDecimals).map fun exponent =>
      ofDecimal negative (numberOfDigits (whole ++ decimals)) (exponent - decimals.length)

/-- The real number that a person types, with digits of any script and blanks around it. -/
def ofTyped? (text : List Char) : Option Binary64 :=
  realBy? (groupedDigits digitValue?) (trimSpacing text)

end Rulebook.Binary64
