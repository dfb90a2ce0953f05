import Mathlib
import Rulebook.Number.Shortest

/-!
# Rounding to a binary number

Every quotient in the interval around a binary number is rounded to this number. The interval is
given in quarters of the last place: it reaches half a place up and half a place down, but only a
quarter of a place down from a power of two, below which the places are half as wide. Its ends
belong to it if the significand is even. Whatever is rounded to a finite number is rounded to one
whose significand and exponent are those by which the number is named.
-/

namespace Rulebook.Binary64

/-- The significand and the exponent of a binary number that is not zero. -/
structure IsCanonical (significand : Nat) (exponent : Int) : Prop where
  positive : 0 < significand
  small : significand < 2 ^ 53
  least : minExponent ≤ exponent
  greatest : exponent ≤ maxExponent
  /-- Only with the least exponent the significand may be shorter. -/
  full : minExponent < exponent → 2 ^ 52 ≤ significand

/-- The number is finite, and it has the significand and the exponent by which it is named: no other
finite number arises from rounding. -/
inductive IsFiniteNumber : Binary64 → Prop
  | finite (negative : Bool) {significand : Nat} {exponent : Int} (small : significand < 2 ^ 53)
      (least : minExponent ≤ exponent) (greatest : exponent ≤ maxExponent)
      (full : minExponent < exponent → 2 ^ 52 ≤ significand) :
      IsFiniteNumber (.finite negative significand exponent)

/-- A point lies in an interval. -/
def Interval.Contains (interval : Interval) (point : ℚ) : Prop :=
  if interval.closed then interval.lower ≤ point ∧ point ≤ interval.upper
  else interval.lower < point ∧ point < interval.upper

/-! ## Whole numbers and powers of two -/

/-- The nearest whole number is at most a half away, and an odd one less. -/
theorem nearestWhole_eq {top bottom whole : Nat} (lower : 2 * whole * bottom ≤ 2 * top + bottom)
    (upper : 2 * top ≤ (2 * whole + 1) * bottom)
    (tie : whole % 2 = 1 → 2 * whole * bottom < 2 * top + bottom ∧
      2 * top < (2 * whole + 1) * bottom)
    (positive : 0 < bottom) : nearestWhole top bottom = whole := by
  have split := Nat.div_add_mod top bottom
  have rest := Nat.mod_lt top positive
  simp only [nearestWhole]
  generalize top / bottom = quotient at split ⊢
  generalize top % bottom = remainder at split rest ⊢
  have atMost : whole ≤ quotient + 1 := by
    by_contra more
    have := Nat.mul_le_mul_right bottom (show quotient + 2 ≤ whole by omega)
    linarith
  have atLeast : quotient ≤ whole := by
    by_contra less
    have := Nat.mul_le_mul_right bottom (show whole + 1 ≤ quotient by omega)
    linarith
  rcases Nat.eq_or_lt_of_le atLeast with rfl | next
  · -- the quotient itself
    have notAbove : ¬bottom < 2 * remainder := by
      intro above
      linarith
    rw [if_neg notAbove]
    split
    · rfl
    · next notBelow =>
      rw [if_pos]
      by_contra odd
      have := tie (by omega)
      have : bottom = 2 * remainder := by omega
      linarith
  · -- the whole number above the quotient
    have isNext : whole = quotient + 1 := by omega
    subst isNext
    have notBelow : ¬2 * remainder < bottom := by
      intro below
      linarith
    rw [if_neg notBelow]
    split
    · rfl
    · next notAbove =>
      rw [if_neg]
      intro even
      have := tie (by omega)
      have : bottom = 2 * remainder := by omega
      linarith

theorem scaleDown_eq (numerator : Nat) {denominator : Nat} (positive : 0 < denominator)
    (exponent : Int) :
    0 < (scaleDown numerator denominator exponent).2 ∧
      ((scaleDown numerator denominator exponent).1 : ℚ) /
        (scaleDown numerator denominator exponent).2 =
        numerator / denominator / 2 ^ exponent := by
  cases exponent with
  | ofNat power =>
      refine ⟨Nat.mul_pos positive (Nat.pow_pos (by decide)), ?_⟩
      simp [scaleDown, div_div]
  | negSucc power =>
      refine ⟨positive, ?_⟩
      simp [scaleDown, zpow_negSucc]
      ring

theorem log2_bounds {number : Nat} (positive : 0 < number) :
    (2 : ℚ) ^ (number.log2 : Int) ≤ number ∧ (number : ℚ) < 2 ^ ((number.log2 : Int) + 1) := by
  constructor
  · rw [zpow_natCast]
    exact_mod_cast Nat.log2_self_le positive.ne'
  · have above := @Nat.lt_log2_self number
    rw [← Nat.cast_succ, zpow_natCast]
    exact_mod_cast above

theorem floorLog_bounds {numerator denominator : Nat} (numeratorPositive : 0 < numerator)
    (denominatorPositive : 0 < denominator) :
    (2 : ℚ) ^ floorLog numerator denominator ≤ numerator / denominator ∧
      (numerator / denominator : ℚ) < 2 ^ (floorLog numerator denominator + 1) := by
  have two : (2 : ℚ) ≠ 0 := two_ne_zero
  have above := log2_bounds numeratorPositive
  have below := log2_bounds denominatorPositive
  have denominatorCast : (0 : ℚ) < denominator := by exact_mod_cast denominatorPositive
  have scaled := scaleDown_eq numerator denominatorPositive
    ((numerator.log2 : Int) - (denominator.log2 : Int))
  simp only [floorLog]
  generalize scaleDown numerator denominator
    ((numerator.log2 : Int) - (denominator.log2 : Int)) = scale at scaled ⊢
  rcases scaled with ⟨positive, quotient⟩
  have positiveCast : (0 : ℚ) < scale.2 := by exact_mod_cast positive
  have unitPositive : (0 : ℚ) < 2 ^ ((numerator.log2 : Int) - (denominator.log2 : Int)) := by
    positivity
  have isAtLeast : scale.2 ≤ scale.1 ↔
      (2 : ℚ) ^ ((numerator.log2 : Int) - (denominator.log2 : Int)) ≤ numerator / denominator := by
    rw [← one_le_div unitPositive, ← quotient, one_le_div positiveCast, Nat.cast_le]
  split
  · next large =>
    refine ⟨isAtLeast.mp large, ?_⟩
    rw [div_lt_iff₀ denominatorCast]
    calc (numerator : ℚ) < 2 ^ ((numerator.log2 : Int) + 1) := above.2
      _ = 2 ^ ((numerator.log2 : Int) - (denominator.log2 : Int) + 1) *
          2 ^ (denominator.log2 : Int) := by rw [← zpow_add₀ two]; congr 1; ring
      _ ≤ _ := by gcongr; exact below.1
  · next small =>
    rw [sub_add_cancel]
    refine ⟨?_, not_le.mp (mt isAtLeast.mpr small)⟩
    rw [le_div_iff₀ denominatorCast]
    calc (2 : ℚ) ^ ((numerator.log2 : Int) - (denominator.log2 : Int) - 1) * denominator
        ≤ 2 ^ ((numerator.log2 : Int) - (denominator.log2 : Int) - 1) *
          2 ^ ((denominator.log2 : Int) + 1) := by gcongr; exact below.2.le
      _ = 2 ^ (numerator.log2 : Int) := by rw [← zpow_add₀ two]; congr 1; ring
      _ ≤ numerator := above.1

/-! ## Rounding a quotient -/

/-- A number written as a significand and a power of two is the only one with these bounds. -/
theorem floorLog_eq {numerator denominator : Nat} (numeratorPositive : 0 < numerator)
    (denominatorPositive : 0 < denominator) {power : Int}
    (lower : (2 : ℚ) ^ power ≤ numerator / denominator)
    (upper : (numerator / denominator : ℚ) < 2 ^ (power + 1)) :
    floorLog numerator denominator = power := by
  have bounds := floorLog_bounds numeratorPositive denominatorPositive
  have atMost := (zpow_lt_zpow_iff_right₀ one_lt_two).mp (bounds.1.trans_lt upper)
  have atLeast := (zpow_lt_zpow_iff_right₀ one_lt_two).mp (lower.trans_lt bounds.2)
  omega

theorem nearestWhole_scaleDown {numerator denominator : Nat} (positive : 0 < denominator)
    {exponent : Int} {whole : Nat}
    (lower : (whole : ℚ) - 1 / 2 ≤ numerator / denominator / 2 ^ exponent)
    (upper : (numerator / denominator / 2 ^ exponent : ℚ) ≤ whole + 1 / 2)
    (tie : whole % 2 = 1 → (whole : ℚ) - 1 / 2 < numerator / denominator / 2 ^ exponent ∧
      (numerator / denominator / 2 ^ exponent : ℚ) < whole + 1 / 2) :
    nearestWhole (scaleDown numerator denominator exponent).1
      (scaleDown numerator denominator exponent).2 = whole := by
  have scaled := scaleDown_eq numerator positive exponent
  generalize scaleDown numerator denominator exponent = scale at scaled ⊢
  rcases scaled with ⟨scalePositive, quotient⟩
  have cast : (0 : ℚ) < scale.2 := by exact_mod_cast scalePositive
  rw [← quotient] at lower upper tie
  rw [le_div_iff₀ cast] at lower
  rw [div_le_iff₀ cast] at upper
  rw [lt_div_iff₀ cast, div_lt_iff₀ cast] at tie
  refine nearestWhole_eq ?_ ?_ ?_ scalePositive
  · rw [← Nat.cast_le (α := ℚ)]
    push_cast
    linarith
  · rw [← Nat.cast_le (α := ℚ)]
    push_cast
    linarith
  · intro odd
    have strict := tie odd
    constructor
    · rw [← Nat.cast_lt (α := ℚ)]
      push_cast
      linarith [strict.1]
    · rw [← Nat.cast_lt (α := ℚ)]
      push_cast
      linarith [strict.2]

/-- A number of places that is rounded to a significand. -/
structure IsNear (significand : Nat) (exponent : Int) (places : ℚ) : Prop where
  lower : (significand : ℚ) - 1 / 2 ≤ places
  upper : places ≤ significand + 1 / 2
  /-- An end of the interval belongs to the even one of the two significands beside it. -/
  tie : significand % 2 = 1 → (significand : ℚ) - 1 / 2 < places ∧ places < significand + 1 / 2
  /-- Below a power of two the places are half as wide. -/
  narrow : significand = 2 ^ 52 → minExponent < exponent → (significand : ℚ) - 1 / 4 ≤ places

theorem isNear_of_contains {significand : Nat} {exponent : Int} (positive : 0 < significand)
    {number : ℚ}
    (within : (roundingInterval significand exponent).Contains (number / 2 ^ (exponent - 2))) :
    IsNear significand exponent (number / 2 ^ exponent) := by
  have quarters : number / 2 ^ (exponent - 2) = 4 * (number / 2 ^ exponent) := by
    rw [zpow_sub₀ two_ne_zero]
    norm_num
    ring
  rw [quarters] at within
  generalize number / 2 ^ exponent = places at within
  have half : ((4 * significand - 2 : Nat) : ℚ) = 4 * significand - 2 := by
    rw [Nat.cast_sub (by omega)]
    push_cast
    ring
  have quarter : ((4 * significand - 1 : Nat) : ℚ) = 4 * significand - 1 := by
    rw [Nat.cast_sub (by omega)]
    push_cast
    ring
  have upperEnd : ((4 * significand + 2 : Nat) : ℚ) = 4 * significand + 2 := by
    push_cast
    ring
  simp only [Interval.Contains, roundingInterval, upperEnd] at within
  by_cases power : significand = Nat.pow 2 52 ∧ minExponent < exponent
  · have even : (significand % 2 == 0) = true := by
      rw [power.1]
      decide
    rw [if_pos even, if_pos power, quarter] at within
    refine ⟨by linarith, by linarith, fun odd => ?_, fun _ _ => by linarith⟩
    rw [beq_iff_eq] at even
    omega
  · rw [if_neg power, half] at within
    have notNarrow : significand = 2 ^ 52 → minExponent < exponent →
        (significand : ℚ) - 1 / 4 ≤ places := fun same above => absurd ⟨same, above⟩ power
    split at within
    · next even =>
      rw [beq_iff_eq] at even
      exact ⟨by linarith, by linarith, fun odd => by omega, notNarrow⟩
    · exact ⟨by linarith, by linarith, fun _ => ⟨by linarith, by linarith⟩, notNarrow⟩

theorem ofRatio_of_nearestWhole {numerator denominator significand : Nat} {exponent : Int}
    (positive : 0 < numerator)
    (scale : max (floorLog numerator denominator - 52) minExponent = exponent)
    (nearest : nearestWhole (scaleDown numerator denominator exponent).1
      (scaleDown numerator denominator exponent).2 = significand) (negative : Bool) :
    ofRatio negative numerator denominator =
      if significand = 2 ^ 53 then
        if maxExponent < exponent + 1 then infinity negative
        else finite negative (2 ^ 52) (exponent + 1)
      else if maxExponent < exponent then infinity negative
      else finite negative significand exponent := by
  simp only [ofRatio, if_neg positive.ne', scale, nearest, Nat.pow_eq]
  by_cases carry : significand = 2 ^ 53
  · simp only [if_pos carry]
  · simp only [if_neg carry]

/-- Just below a power of two a quotient is rounded up to it, in places half as wide. -/
theorem ofRatio_below_power {exponent : Int} (above : minExponent < exponent)
    (greatest : exponent ≤ maxExponent) {numerator denominator : Nat}
    (numeratorPositive : 0 < numerator) (denominatorPositive : 0 < denominator)
    (lower : (2 : ℚ) ^ (52 : Int) - 1 / 4 ≤ numerator / denominator / 2 ^ exponent)
    (upper : (numerator / denominator / 2 ^ exponent : ℚ) < 2 ^ (52 : Int)) (negative : Bool) :
    ofRatio negative numerator denominator = finite negative (2 ^ 52) exponent := by
  have unit : (0 : ℚ) < 2 ^ exponent := by positivity
  have log : floorLog numerator denominator = exponent + 51 := by
    apply floorLog_eq numeratorPositive denominatorPositive
    · have places : (2 : ℚ) ^ (51 : Int) ≤ numerator / denominator / 2 ^ exponent := by
        norm_num at lower ⊢
        linarith
      rwa [le_div_iff₀ unit, ← zpow_add₀ two_ne_zero, add_comm] at places
    · rw [div_lt_iff₀ unit, ← zpow_add₀ two_ne_zero] at upper
      rwa [add_assoc, add_comm exponent]
  have scale : max (floorLog numerator denominator - 52) minExponent = exponent - 1 := by
    rw [log, max_eq_left] <;> omega
  have halves : (numerator / denominator / 2 ^ (exponent - 1) : ℚ) =
      2 * (numerator / denominator / 2 ^ exponent) := by
    rw [zpow_sub_one₀ two_ne_zero]
    field_simp
  have nearest : nearestWhole (scaleDown numerator denominator (exponent - 1)).1
      (scaleDown numerator denominator (exponent - 1)).2 = 2 ^ 53 := by
    apply nearestWhole_scaleDown denominatorPositive
    · rw [halves]
      norm_num at lower ⊢
      linarith
    · rw [halves]
      norm_num at upper ⊢
      linarith
    · exact fun odd => absurd odd (by decide)
  rw [ofRatio_of_nearestWhole numeratorPositive scale nearest, if_pos rfl, sub_add_cancel,
    if_neg (not_lt.mpr greatest)]

/-- Every quotient in the interval of a binary number is rounded to it. -/
theorem ofRatio_eq_finite {significand : Nat} {exponent : Int}
    (canonical : IsCanonical significand exponent) {numerator denominator : Nat}
    (numeratorPositive : 0 < numerator) (denominatorPositive : 0 < denominator)
    (near : IsNear significand exponent (numerator / denominator / 2 ^ exponent))
    (negative : Bool) :
    ofRatio negative numerator denominator = finite negative significand exponent := by
  have unit : (0 : ℚ) < 2 ^ exponent := by positivity
  have least := canonical.least
  have small : (significand : ℚ) + 1 ≤ 2 ^ (53 : Int) := by
    rw [zpow_ofNat]
    exact_mod_cast canonical.small
  have belowNext : (numerator / denominator : ℚ) < 2 ^ (exponent + 53) := by
    have places : (numerator / denominator / 2 ^ exponent : ℚ) < 2 ^ (53 : Int) := by
      linarith [near.upper]
    rwa [div_lt_iff₀ unit, ← zpow_add₀ two_ne_zero, add_comm] at places
  by_cases carries : minExponent < exponent ∧
      (numerator / denominator / 2 ^ exponent : ℚ) < 2 ^ (52 : Int)
  · rcases carries with ⟨above, low⟩
    have isPower : significand = 2 ^ 52 := by
      refine Nat.le_antisymm ?_ (canonical.full above)
      by_contra more
      have next : (2 : ℚ) ^ (52 : Int) + 1 ≤ significand := by
        rw [zpow_ofNat]
        exact_mod_cast not_le.mp more
      linarith [near.lower]
    have narrow := near.narrow isPower above
    rw [isPower] at narrow ⊢
    push_cast at narrow
    exact ofRatio_below_power above canonical.greatest numeratorPositive denominatorPositive
      (by rwa [zpow_ofNat]) low negative
  · have scale : max (floorLog numerator denominator - 52) minExponent = exponent := by
      rcases least.lt_or_eq with above | rfl
      · have large : (2 : ℚ) ^ (exponent + 52) ≤ numerator / denominator := by
          have places := not_lt.mp fun low => carries ⟨above, low⟩
          rwa [le_div_iff₀ unit, ← zpow_add₀ two_ne_zero, add_comm] at places
        rw [floorLog_eq numeratorPositive denominatorPositive large
          (by rwa [add_assoc]), add_sub_cancel_right, max_eq_left least]
      · rw [max_eq_right]
        have log := (floorLog_bounds numeratorPositive denominatorPositive).1.trans_lt belowNext
        rw [zpow_lt_zpow_iff_right₀ one_lt_two] at log
        omega
    have nearest := nearestWhole_scaleDown denominatorPositive near.lower near.upper near.tie
    rw [ofRatio_of_nearestWhole numeratorPositive scale nearest, if_neg canonical.small.ne,
      if_neg (not_lt.mpr canonical.greatest)]

/-! ## Rounding a decimal number -/

theorem two_zpow_le_ten_zpow {power : Int} (nonneg : 0 ≤ power) :
    (2 : ℚ) ^ (3 * power) ≤ 10 ^ power := by
  lift power to ℕ using nonneg
  rw [zpow_mul, zpow_natCast, zpow_natCast]
  exact pow_le_pow_left₀ (by positivity) (by norm_num) power

theorem ten_zpow_le_two_zpow {power : Int} (nonpos : power ≤ 0) :
    (10 : ℚ) ^ power ≤ 2 ^ (3 * power) := by
  have inverse := two_zpow_le_ten_zpow (neg_nonneg.mpr nonpos)
  rw [mul_neg, zpow_neg, zpow_neg] at inverse
  exact (inv_le_inv₀ (by positivity) (by positivity)).mp inverse

/-- Every decimal number in the interval of a binary number is rounded to it. -/
theorem ofDecimal_eq_finite {significand : Nat} {exponent : Int}
    (canonical : IsCanonical significand exponent) {digits : Nat} {power : Int}
    (positive : 0 < digits)
    (near : IsNear significand exponent (digits * 10 ^ power / 2 ^ exponent))
    (negative : Bool) : ofDecimal negative digits power = finite negative significand exponent := by
  have unit : (0 : ℚ) < 2 ^ exponent := by positivity
  have least := canonical.least
  have greatest := canonical.greatest
  simp only [minExponent] at least
  simp only [maxExponent] at greatest
  have digitsCast : (1 : ℚ) ≤ digits := by exact_mod_cast positive
  have notHuge : ¬400 < power := by
    intro huge
    have small : (significand : ℚ) + 1 ≤ 2 ^ (53 : Int) := by
      rw [zpow_ofNat]
      exact_mod_cast canonical.small
    have places : (digits * 10 ^ power / 2 ^ exponent : ℚ) < 2 ^ (53 : Int) := by
      linarith [near.upper]
    rw [div_lt_iff₀ unit, ← zpow_add₀ two_ne_zero] at places
    have large : (2 : ℚ) ^ (3 * power) ≤ digits * 10 ^ power :=
      (two_zpow_le_ten_zpow (by omega)).trans (le_mul_of_one_le_left (by positivity) digitsCast)
    have := (zpow_lt_zpow_iff_right₀ one_lt_two).mp (large.trans_lt places)
    omega
  have notTiny : ¬power + digits.log2 < -800 := by
    intro tiny
    have whole : (1 : ℚ) ≤ significand := by exact_mod_cast canonical.positive
    have places : (2 : ℚ) ^ (-1 : Int) ≤ digits * 10 ^ power / 2 ^ exponent := by
      rw [zpow_neg_one]
      linarith [near.lower]
    rw [le_div_iff₀ unit, ← zpow_add₀ two_ne_zero] at places
    have small : (digits * 10 ^ power : ℚ) < 2 ^ ((digits.log2 : Int) + 1 + 3 * power) := by
      rw [zpow_add₀ two_ne_zero]
      exact mul_lt_mul (log2_bounds positive).2 (ten_zpow_le_two_zpow (by omega)) (by positivity)
        (by positivity)
    have := (zpow_lt_zpow_iff_right₀ one_lt_two).mp (places.trans_lt small)
    omega
  rw [ofDecimal.eq_def, if_neg positive.ne', if_neg notHuge, if_neg notTiny]
  cases power with
  | ofNat power =>
      refine ofRatio_eq_finite canonical (Nat.mul_pos positive (Nat.pow_pos (by decide)))
        Nat.one_pos ?_ negative
      simpa using near
  | negSucc power =>
      refine ofRatio_eq_finite canonical positive (Nat.pow_pos (by decide)) ?_ negative
      simpa [zpow_negSucc, div_eq_mul_inv] using near

/-! ## The names of rounded numbers -/

theorem nearestWhole_le {top bottom bound : Nat} (positive : 0 < bottom)
    (atMost : top ≤ bound * bottom) : nearestWhole top bottom ≤ bound := by
  have split := Nat.div_add_mod top bottom
  simp only [nearestWhole]
  rcases Nat.lt_or_ge (top / bottom) bound with below | above
  · split_ifs <;> omega
  · -- the bound is the quotient itself
    have exact : top / bottom = bound :=
      Nat.le_antisymm (Nat.div_le_of_le_mul (by rwa [mul_comm])) above
    rw [exact, mul_comm] at split
    rw [exact, if_pos (by omega)]

theorem le_nearestWhole {top bottom bound : Nat} (positive : 0 < bottom)
    (atLeast : bound * bottom ≤ top) : bound ≤ nearestWhole top bottom := by
  have below : bound ≤ top / bottom := (Nat.le_div_iff_mul_le positive).mpr atLeast
  simp only [nearestWhole]
  split_ifs <;> omega

theorem isFiniteNumber_signedZero (negative : Bool) : (signedZero negative).IsFiniteNumber :=
  .finite negative (by decide) le_rfl (by decide) fun above => absurd above (lt_irrefl _)

/-- A quotient that is rounded to a finite number is rounded to one that is named as such. -/
theorem isFiniteNumber_ofRatio {negative : Bool} {numerator denominator : Nat}
    (positive : 0 < denominator)
    (finite : (ofRatio negative numerator denominator).isFinite = true) :
    (ofRatio negative numerator denominator).IsFiniteNumber := by
  rcases Nat.eq_zero_or_pos numerator with rfl | numeratorPositive
  · exact isFiniteNumber_signedZero negative
  generalize scale : max (floorLog numerator denominator - 52) minExponent = exponent
  generalize nearest : nearestWhole (scaleDown numerator denominator exponent).1
    (scaleDown numerator denominator exponent).2 = significand
  have least : minExponent ≤ exponent := scale ▸ le_max_right _ _
  have log := floorLog_bounds numeratorPositive positive
  rcases scaleDown_eq numerator positive exponent with ⟨scalePositive, quotient⟩
  have cast : (0 : ℚ) < (scaleDown numerator denominator exponent).2 := by
    exact_mod_cast scalePositive
  have unit : (0 : ℚ) < 2 ^ exponent := by positivity
  have atMost : significand ≤ 2 ^ 53 := by
    rw [← nearest]
    refine nearestWhole_le scalePositive ?_
    have places : (numerator / denominator / 2 ^ exponent : ℚ) ≤ 2 ^ (53 : Int) := by
      rw [div_le_iff₀ unit, ← zpow_add₀ two_ne_zero]
      exact log.2.le.trans (zpow_le_zpow_right₀ one_le_two (by omega))
    rw [← quotient, div_le_iff₀ cast, zpow_ofNat] at places
    exact_mod_cast places
  have full : minExponent < exponent → 2 ^ 52 ≤ significand := by
    intro above
    rw [← nearest]
    refine le_nearestWhole scalePositive ?_
    have places : (2 : ℚ) ^ (52 : Int) ≤ numerator / denominator / 2 ^ exponent := by
      rw [le_div_iff₀ unit, ← zpow_add₀ two_ne_zero]
      exact (zpow_le_zpow_right₀ one_le_two (by omega)).trans log.1
    rw [← quotient, le_div_iff₀ cast, zpow_ofNat] at places
    exact_mod_cast places
  rw [ofRatio_of_nearestWhole numeratorPositive scale nearest] at finite ⊢
  by_cases carry : significand = 2 ^ 53
  · rw [if_pos carry] at finite ⊢
    by_cases large : maxExponent < exponent + 1
    · rw [if_pos large] at finite
      cases finite
    · rw [if_neg large]
      exact .finite negative (by decide) (by omega) (by omega) fun _ => le_rfl
  · rw [if_neg carry] at finite ⊢
    by_cases large : maxExponent < exponent
    · rw [if_pos large] at finite
      cases finite
    · rw [if_neg large]
      exact .finite negative (by omega) least (by omega) full

/-- So is a decimal number. -/
theorem isFiniteNumber_ofDecimal {negative : Bool} {digits : Nat} {power : Int}
    (finite : (ofDecimal negative digits power).isFinite = true) :
    (ofDecimal negative digits power).IsFiniteNumber := by
  rw [ofDecimal.eq_def] at finite ⊢
  by_cases zero : digits = 0
  · rw [if_pos zero]
    exact isFiniteNumber_signedZero negative
  rw [if_neg zero] at finite ⊢
  by_cases huge : 400 < power
  · rw [if_pos huge] at finite
    cases finite
  rw [if_neg huge] at finite ⊢
  by_cases tiny : power + digits.log2 < -800
  · rw [if_pos tiny]
    exact isFiniteNumber_signedZero negative
  rw [if_neg tiny] at finite ⊢
  cases power with
  | ofNat power => exact isFiniteNumber_ofRatio Nat.one_pos finite
  | negSucc power => exact isFiniteNumber_ofRatio (Nat.pow_pos (by decide)) finite

end Rulebook.Binary64
