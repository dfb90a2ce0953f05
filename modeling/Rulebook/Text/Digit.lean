import Rulebook.Text.DigitTable

/-!
# Decimal digits and whole numbers in text

Numbers may be typed with the digits of any script, and with digits of several scripts at once.
This file gives the value of a digit, the value of a run of digits and the decimal text of a
natural number or integer.
-/

namespace Rulebook.Text

/-- The value of a decimal digit of any script. -/
def digitValue? (character : Char) : Option Nat :=
  let code := character.toNat
  if code < 0x80 then
    if 0x30 ≤ code ∧ code ≤ 0x39 then some (code - 0x30) else none
  else
    (digitZeros.find? fun first => first ≤ code && code < first + 10).map (code - ·)

/-- The character is a decimal digit of some script. -/
def isDigit (character : Char) : Bool :=
  (digitValue? character).isSome

/-- The values of the digits that a text begins with. -/
def digitRun : List Char → List Nat
  | [] => []
  | character :: rest =>
      match digitValue? character with
      | some value => value :: digitRun rest
      | none => []

/-- The number that a run of digit values denotes in positional notation with a base. -/
def numberInBase (base : Nat) (digits : List Nat) : Nat :=
  digits.foldl (fun number digit => base * number + digit) 0

/-- The number that a run of digit values denotes in decimal notation. -/
def numberOfDigits (digits : List Nat) : Nat :=
  numberInBase 10 digits

/-- The digit character of a value below sixteen, in lower case. -/
def hexDigit (value : Nat) : Char :=
  if value < 10 then Char.ofNat (0x30 + value) else Char.ofNat (0x57 + value)

/-- The digits of a number in the given base, most significant first, in front of `tail`. -/
def digitsOnto (base : Nat) (two_le : 2 ≤ base) (number : Nat) (tail : List Char) : List Char :=
  if _small : number < base then
    hexDigit number :: tail
  else
    digitsOnto base two_le (number / base) (hexDigit (number % base) :: tail)
termination_by number
decreasing_by exact Nat.div_lt_self (by omega) (by omega)

/-- The number in decimal digits. -/
def decimal (number : Nat) : List Char :=
  digitsOnto 10 (by decide) number []

/-- The number in decimal digits, with a sign where it is negative. -/
def signedDecimal : Int → List Char
  | .ofNat number => decimal number
  | .negSucc number => '-' :: decimal (number + 1)

/-- A text padded on the left with a filling character up to a width. -/
def padLeft (width : Nat) (filling : Char) (text : List Char) : List Char :=
  List.replicate (width - text.length) filling ++ text

/-- The hexadecimal digits of a number, in lower case and at least `width` of them. -/
def hexadecimal (width : Nat) (number : Nat) : List Char :=
  padLeft width '0' (digitsOnto 16 (by decide) number [])

/-- The value of a hexadecimal digit in either case. -/
def hexValue? (character : Char) : Option Nat :=
  let code := character.toNat
  if 0x30 ≤ code ∧ code ≤ 0x39 then some (code - 0x30)
  else if 0x41 ≤ code ∧ code ≤ 0x46 then some (code - 0x37)
  else if 0x61 ≤ code ∧ code ≤ 0x66 then some (code - 0x57)
  else none

end Rulebook.Text
