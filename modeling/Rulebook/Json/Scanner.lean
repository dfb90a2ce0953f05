import Rulebook.Json.Syntax
import Rulebook.Number.Binary64

/-!
# Numbers and texts inside JSON text

The two scanners that read a lexical unit: a number in front of a text, and a text literal after
its opening quote. Each returns what it read and what is left.
-/

namespace Rulebook.Json

/-- The characters that may stand between the tokens of JSON text. -/
def isSpace (character : Char) : Bool :=
  character == ' ' || character == '\t' || character == '\n' || character == '\r'

/-- What is left after the space in front. -/
def skipSpace (text : List Char) : List Char :=
  text.dropWhile isSpace

/-- The character is a digit of ASCII. -/
def isPlainDigit (character : Char) : Bool :=
  '0' ≤ character && character ≤ '9'

/-- The digits in front of a text, and what follows them. -/
def spanDigits (text : List Char) : List Char × List Char :=
  (text.takeWhile isPlainDigit, text.dropWhile isPlainDigit)

/-- The number that digits of ASCII write. -/
def plainNumber (digits : List Char) : Nat :=
  digits.foldl (fun number digit => 10 * number + (digit.toNat - 0x30)) 0

/-- A number as it is written: its sign, its whole digits, and the digits after the point and the
exponent where it has them. -/
structure Numeral where
  /-- Whether a minus sign stands in front. -/
  negative : Bool
  whole : List Char
  decimals : Option (List Char)
  exponent : Option (Bool × List Char)
deriving DecidableEq, Repr

/-- The whole digits of a number: a zero, or digits that do not begin with one. -/
def scanWhole? (text : List Char) : Option (List Char × List Char) :=
  match text with
  | '0' :: rest => some (['0'], rest)
  | _ =>
      let (digits, rest) := spanDigits text
      if digits.isEmpty then none else some (digits, rest)

/-- The digits after a point, if a digit follows the point. -/
def scanDecimals (text : List Char) : Option (List Char) × List Char :=
  match text with
  | '.' :: rest =>
      let (digits, left) := spanDigits rest
      if digits.isEmpty then (none, text) else (some digits, left)
  | _ => (none, text)

/-- The exponent, if a digit follows its mark and sign. -/
def scanExponent (text : List Char) : Option (Bool × List Char) × List Char :=
  match text with
  | mark :: rest =>
      if mark = 'e' ∨ mark = 'E' then
        let (negative, unsigned) := match rest with
          | '-' :: more => (true, more)
          | '+' :: more => (false, more)
          | _ => (false, rest)
        let (digits, left) := spanDigits unsigned
        if digits.isEmpty then (none, text) else (some (negative, digits), left)
      else (none, text)
  | [] => (none, text)

/-- Reads a numeral: a sign, whole digits, decimals and an exponent. -/
def scanNumeral? (text : List Char) : Option (Numeral × List Char) :=
  let (negative, unsigned) := match text with
    | '-' :: rest => (true, rest)
    | _ => (false, text)
  match scanWhole? unsigned with
  | none => none
  | some (whole, afterWhole) =>
      let (decimals, afterDecimals) := scanDecimals afterWhole
      let (exponent, rest) := scanExponent afterDecimals
      some (⟨negative, whole, decimals, exponent⟩, rest)

/-- The number is written without point and exponent. -/
def Numeral.isWhole (numeral : Numeral) : Bool :=
  numeral.decimals.isNone && numeral.exponent.isNone

/-- The integer that a whole number denotes. -/
def Numeral.toInt (numeral : Numeral) : Int :=
  let magnitude : Int := plainNumber numeral.whole
  if numeral.negative then -magnitude else magnitude

/-- The binary number nearest to what is written. -/
def Numeral.toReal (numeral : Numeral) : Binary64 :=
  let decimals := numeral.decimals.getD []
  let exponent : Int := match numeral.exponent with
    | none => 0
    | some (negative, digits) =>
        let magnitude : Int := plainNumber digits
        if negative then -magnitude else magnitude
  Binary64.ofDecimal numeral.negative (plainNumber (numeral.whole ++ decimals))
    (exponent - decimals.length)

/-- The code unit that four hexadecimal digits denote. -/
def unitOfHex? (a b c d : Char) : Option Nat :=
  match Text.hexValue? a, Text.hexValue? b, Text.hexValue? c, Text.hexValue? d with
  | some a, some b, some c, some d => some (((a * 16 + b) * 16 + c) * 16 + d)
  | _, _, _, _ => none

/-- The unit is the first half of a surrogate pair. -/
def isHighSurrogate (unit : Nat) : Bool :=
  0xD800 ≤ unit && unit < 0xDC00

/-- The unit is the second half of a surrogate pair. -/
def isLowSurrogate (unit : Nat) : Bool :=
  0xDC00 ≤ unit && unit < 0xE000

/-- The character of a code unit. Half a surrogate pair stands for no character and is replaced, so
that every text that has been read can be sent; what is stated about sending such a text leaves it
out, as its half has no bytes. -/
def charOfUnit (unit : Nat) : Char :=
  if isHighSurrogate unit || isLowSurrogate unit then '\uFFFD' else Char.ofNat unit

/-- The character that a pair of surrogates stands for. -/
def charOfPair (high low : Nat) : Char :=
  Char.ofNat (0x10000 + (high - 0xD800) * 0x400 + (low - 0xDC00))

/-- The character that a one-letter escape stands for. -/
def simpleEscape? : Char → Option Char
  | '"' => some '"'
  | '\\' => some '\\'
  | '/' => some '/'
  | 'b' => some '\x08'
  | 'f' => some '\x0c'
  | 'n' => some '\n'
  | 'r' => some '\r'
  | 't' => some '\t'
  | _ => none

/-- The characters that a sequence of code units stands for: the two halves of a surrogate pair
that follow each other make one character. -/
def charsOfUnits : List Nat → List Char
  | [] => []
  | [unit] => [charOfUnit unit]
  | high :: low :: rest =>
      if isHighSurrogate high && isLowSurrogate low then
        charOfPair high low :: charsOfUnits rest
      else charOfUnit high :: charsOfUnits (low :: rest)

/-- Reads the code units of a text after its opening quote. The first argument is the text from
the opening quote on, which is where a missing closing quote is reported; the second holds the
units read so far, in reverse order. -/
def scanUnits (opening : List Char) (read : List Nat) :
    List Char → Except Fault (List Nat × List Char)
  | [] => .error (.here .unterminatedText opening)
  | '"' :: rest => .ok (read.reverse, rest)
  | ['\\'] => .error (.here .unterminatedText opening)
  | '\\' :: 'u' :: a :: b :: c :: d :: next :: rest =>
      match unitOfHex? a b c d with
      | some unit => scanUnits opening (unit :: read) (next :: rest)
      | none => .error (.here .badUnitEscape ('u' :: a :: b :: c :: d :: next :: rest))
  | '\\' :: 'u' :: rest => .error (.here .badUnitEscape ('u' :: rest))
  | '\\' :: letter :: rest =>
      match simpleEscape? letter with
      | some character => scanUnits opening (character.toNat :: read) rest
      | none => .error (.here .badEscape ('\\' :: letter :: rest))
  | character :: rest =>
      if character.toNat < 0x20 then .error (.here .controlCharacter (character :: rest))
      else scanUnits opening (character.toNat :: read) rest
termination_by structural text => text

/-- Reads a text after its opening quote, given the text from that quote on: the characters of the
text and what is left after the closing quote. -/
def scanText (opening rest : List Char) : Except Fault (List Char × List Char) :=
  match scanUnits opening [] rest with
  | .ok (units, left) => .ok (charsOfUnits units, left)
  | .error fault => .error fault

end Rulebook.Json
