import Rulebook.Text.Digit

/-!
# Binary floating point numbers

A number that is not whole is kept as the binary number with 53 significant bits that is nearest
to what was written. `Binary64` names each such number by its sign, its significand and the power
of two that scales it, so that equality of values is equality of names except for the two zeros.
`Binary64.ofRatio` rounds a quotient to the nearest such number, a tie going to the even
significand, and everything else is derived from it.
-/

namespace Rulebook

/-- A binary floating point number: `± significand · 2 ^ exponent`, an infinity, or the undefined
number. A finite number has a significand below `2 ^ 53` and an exponent of at least `-1074`; the
significand is at least `2 ^ 52` unless the exponent is `-1074`. -/
inductive Binary64
  | finite (negative : Bool) (significand : Nat) (exponent : Int)
  | infinity (negative : Bool)
  | undefined
deriving DecidableEq, Repr, Inhabited

namespace Binary64

/-- The least exponent of a finite number. -/
def minExponent : Int := -1074

/-- The greatest exponent of a finite number. -/
def maxExponent : Int := 971

/-- Zero with a sign. -/
def signedZero (negative : Bool) : Binary64 :=
  finite negative 0 minExponent

/-- The quotient of two numbers scaled by a power of two: numerator and denominator of
`numerator / denominator / 2 ^ exponent`. -/
def scaleDown (numerator denominator : Nat) (exponent : Int) : Nat × Nat :=
  match exponent with
  | .ofNat power => (numerator, denominator * Nat.pow 2 power)
  | .negSucc power => (numerator * Nat.pow 2 (power + 1), denominator)

/-- The whole number nearest to a quotient; a tie goes to the even one. -/
def nearestWhole (numerator denominator : Nat) : Nat :=
  let whole := numerator / denominator
  let rest := numerator % denominator
  if 2 * rest < denominator then whole
  else if denominator < 2 * rest then whole + 1
  else if whole % 2 = 0 then whole else whole + 1

/-- The greatest power of two that is at most the quotient of two positive numbers. -/
def floorLog (numerator denominator : Nat) : Int :=
  let estimate : Int := (numerator.log2 : Int) - (denominator.log2 : Int)
  let (top, bottom) := scaleDown numerator denominator estimate
  if bottom ≤ top then estimate else estimate - 1

/-- The binary number nearest to the quotient of a natural number and a positive one. -/
def ofRatio (negative : Bool) (numerator denominator : Nat) : Binary64 :=
  if numerator = 0 then signedZero negative
  else
    let exponent := max (floorLog numerator denominator - 52) minExponent
    let (top, bottom) := scaleDown numerator denominator exponent
    let significand := nearestWhole top bottom
    let (significand, exponent) :=
      if significand = Nat.pow 2 53 then (Nat.pow 2 52, exponent + 1) else (significand, exponent)
    if maxExponent < exponent then infinity negative
    else finite negative significand exponent

/-- The binary number nearest to `digits · 10 ^ exponent`. Powers far outside the range of finite
numbers are decided by their size alone. -/
def ofDecimal (negative : Bool) (digits : Nat) (exponent : Int) : Binary64 :=
  if digits = 0 then signedZero negative
  else if 400 < exponent then infinity negative
  else if exponent + digits.log2 < -800 then signedZero negative
  else match exponent with
    | .ofNat power => ofRatio negative (digits * Nat.pow 10 power) 1
    | .negSucc power => ofRatio negative digits (Nat.pow 10 (power + 1))

/-- The real number nearest to a whole one. -/
def ofInt (number : Int) : Binary64 :=
  ofRatio (number < 0) number.natAbs 1

/-- The number is neither infinite nor undefined. -/
def isFinite : Binary64 → Bool
  | finite .. => true
  | _ => false

/-- The number is zero, whatever its sign. -/
def isZero : Binary64 → Bool
  | finite _ significand _ => significand == 0
  | _ => false

/-- The integer that a number equals, if it is whole. -/
def toInt? : Binary64 → Option Int
  | finite negative significand exponent =>
      let whole : Option Nat :=
        match exponent with
        | .ofNat power => some (significand * Nat.pow 2 power)
        | .negSucc power =>
            let unit := Nat.pow 2 (power + 1)
            if significand % unit = 0 then some (significand / unit) else none
      whole.map fun number => if negative then -(number : Int) else number
  | _ => none

/-- The number is at least an integer. The undefined number is not. -/
def atLeast (number : Binary64) (bound : Int) : Bool :=
  match number with
  | finite negative significand exponent =>
      let (top, bottom) := scaleDown significand 1 (-exponent)
      let signed : Int := if negative then -(top : Int) else top
      bound * bottom ≤ signed
  | infinity negative => !negative
  | undefined => false

/-- Two numbers have the same value: the zeros agree, the undefined number agrees with none. -/
def sameValue : Binary64 → Binary64 → Bool
  | undefined, _ | _, undefined => false
  | left, right => left == right || (left.isZero && right.isZero)

end Binary64

end Rulebook
