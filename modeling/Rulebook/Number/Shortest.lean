import Rulebook.Number.Binary64

/-!
# The shortest decimal text of a binary number

A binary number is written with the fewest decimal digits that read back as the same number, and
among those with the digits nearest to it. The reals that round to a finite number form an
interval; for one digit, two digits and so on, the two neighbours of the number on the decimal
grid of that many digits are tried, and the first grid that meets the interval gives the digits.
Positions from `10 ^ -4` to below `10 ^ 16` are written out; beyond them an exponent follows.
-/

namespace Rulebook.Binary64

/-- An interval of reals around a positive number, all four given as multiples of one unit. -/
structure Interval where
  centre : Nat
  lower : Nat
  upper : Nat
  /-- Whether the ends belong to the interval. -/
  closed : Bool

/-- The interval of reals that round to `significand · 2 ^ exponent`, in units of a quarter of
`2 ^ exponent`. The gap below a power of two is half as wide as the gap above it. -/
def roundingInterval (significand : Nat) (exponent : Int) : Interval where
  centre := 4 * significand
  lower := if significand = Nat.pow 2 52 ∧ minExponent < exponent
    then 4 * significand - 1 else 4 * significand - 2
  upper := 4 * significand + 2
  closed := significand % 2 == 0

/-- The point lies in the interval. -/
def Interval.holds (interval : Interval) (point : Nat) : Bool :=
  if interval.closed then interval.lower ≤ point && point ≤ interval.upper
  else interval.lower < point && point < interval.upper

/-- The multiple of `step` in the interval that is nearest to its centre, divided by `step`. -/
def Interval.gridPoint? (interval : Interval) (step : Nat) : Option Nat :=
  let below := interval.centre / step
  let holdsBelow := interval.holds (below * step)
  let holdsAbove := interval.holds ((below + 1) * step)
  if holdsBelow && holdsAbove then
    let rest := interval.centre % step
    if 2 * rest < step then some below
    else if step < 2 * rest then some (below + 1)
    else some (if below % 2 = 0 then below else below + 1)
  else if holdsBelow then some below
  else if holdsAbove then some (below + 1)
  else none

/-- The interval with everything in it multiplied. -/
def Interval.scale (interval : Interval) (factor : Nat) : Interval :=
  { interval with
    centre := interval.centre * factor
    lower := interval.lower * factor
    upper := interval.upper * factor }

/-- The interval and the step `10 ^ power` on a common unit, where the interval is given in units
of `2 ^ unit`. -/
def onCommonUnit (interval : Interval) (unit power : Int) : Interval × Nat :=
  let twos := Nat.pow 2 unit.natAbs
  let tens := Nat.pow 10 power.natAbs
  match decide (0 ≤ unit), decide (0 ≤ power) with
  | true, true => (interval.scale twos, tens)
  | true, false => (interval.scale (twos * tens), 1)
  | false, true => (interval, tens * twos)
  | false, false => (interval.scale tens, twos)

/-- The first grid, from `10 ^ power` downwards, with a point in the interval: the point and the
power of its grid. After the last grid it is the first point of the next one. -/
def firstGridPoint (interval : Interval) (unit : Int) : (grids : Nat) → (power : Int) → Nat × Int
  | 0, power => (1, power)
  | grids + 1, power =>
      let (scaled, step) := onCommonUnit interval unit power
      match scaled.gridPoint? step with
      | some point => (point, power)
      | none => firstGridPoint interval unit grids (power - 1)

/-- The digits and the power of ten of the shortest decimal number that reads back as the positive
number `significand · 2 ^ exponent`. Twenty grids suffice because seventeen digits do. -/
def shortest (significand : Nat) (exponent : Int) : Nat × Int :=
  let magnitude := (significand.log2 : Int) + exponent
  firstGridPoint (roundingInterval significand exponent) (exponent - 2) 20
    (magnitude * 30103 / 100000 + 1)

/-- Digits without the zeros at their end, at most `bound` of them, and the power of ten after them.
-/
def dropTrailingZeros : (bound digits : Nat) → (power : Int) → Nat × Int
  | 0, digits, power => (digits, power)
  | bound + 1, digits, power =>
      if digits ≠ 0 ∧ digits % 10 = 0 then dropTrailingZeros bound (digits / 10) (power + 1)
      else (digits, power)

/-- The exponent part: a sign and at least two digits. -/
def exponentText (exponent : Int) : List Char :=
  'e' :: (if exponent < 0 then '-' else '+') ::
    Text.padLeft 2 '0' (Text.decimal exponent.natAbs)

/-- The text of the number `digits · 10 ^ power`, where the digits do not end in a zero. -/
def layOut (digits : Nat) (power : Int) : List Char :=
  let text := Text.decimal digits
  let point : Int := text.length + power
  if -4 < point ∧ point ≤ 16 then
    if point ≤ 0 then '0' :: '.' :: (List.replicate (-point).toNat '0' ++ text)
    else if power ≥ 0 then text ++ List.replicate power.toNat '0' ++ ['.', '0']
    else text.take point.toNat ++ '.' :: text.drop point.toNat
  else
    let mantissa := match text with
      | first :: second :: rest => first :: '.' :: second :: rest
      | short => short
    mantissa ++ exponentText (point - 1)

/-- The text of a finite number: always with a point or an exponent, so that it reads back as a
number that need not be whole. -/
def finiteText (negative : Bool) (significand : Nat) (exponent : Int) : List Char :=
  let magnitude :=
    if significand = 0 then ['0', '.', '0']
    else
      let (digits, power) := shortest significand exponent
      let (digits, power) := dropTrailingZeros 20 digits power
      layOut digits power
  if negative then '-' :: magnitude else magnitude

/-- The number as it is written: by the fewest digits that read back as it. -/
def text : Binary64 → List Char
  | finite negative significand exponent => finiteText negative significand exponent
  | infinity negative => (if negative then "-inf" else "inf").toList
  | undefined => "nan".toList

end Rulebook.Binary64
