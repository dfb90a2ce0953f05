import Mathlib
import Rulebook.Proofs.Number.Rounding

/-!
# The shortest digits

The digits that are found for a binary number stand for a decimal number in its interval. A grid
that is at least as fine as a quarter of a place has a point between the centre and the lower end,
so a grid is found in time: the first one is chosen by a decimal logarithm, and nineteen further
ones are finer by more than the logarithm can be off.
-/

namespace Rulebook.Binary64

/-! ## Points of a grid -/

namespace Interval

variable {interval : Interval}

theorem holds_iff {point : Nat} : interval.holds point = true ↔ interval.Contains point := by
  rw [holds, Contains]
  split <;> simp

theorem contains_scale {factor : Nat} (positive : 0 < factor) {point : ℚ} :
    (interval.scale factor).Contains point ↔ interval.Contains (point / factor) := by
  have cast : (0 : ℚ) < factor := by exact_mod_cast positive
  simp only [Contains, scale, Nat.cast_mul, le_div_iff₀ cast, div_le_iff₀ cast, lt_div_iff₀ cast,
    div_lt_iff₀ cast]

theorem holds_gridPoint? {step point : Nat} (found : interval.gridPoint? step = some point) :
    interval.holds (point * step) = true := by
  simp only [gridPoint?] at found
  split at found
  · next both =>
    rw [Bool.and_eq_true] at both
    split at found
    · exact Option.some.inj found ▸ both.1
    split at found
    · exact Option.some.inj found ▸ both.2
    · rw [← Option.some.inj found]
      split
      · exact both.1
      · exact both.2
  split at found
  · next below => exact Option.some.inj found ▸ below
  split at found
  · next above => exact Option.some.inj found ▸ above
  · cases found

/-- A fine grid has a point below the centre. -/
theorem isSome_gridPoint? {step : Nat} (fine : interval.lower + step ≤ interval.centre)
    (upper : interval.centre < interval.upper) (positive : 0 < step) :
    (interval.gridPoint? step).isSome = true := by
  have split := Nat.div_add_mod interval.centre step
  have rest := Nat.mod_lt interval.centre positive
  rw [mul_comm] at split
  have below : interval.holds (interval.centre / step * step) = true := by
    rw [holds]
    split <;> simp only [Bool.and_eq_true, decide_eq_true_eq] <;> omega
  simp only [gridPoint?, below, Bool.true_and]
  split
  · split
    · rfl
    split <;> rfl
  · rfl

end Interval

theorem natAbs_cast_of_nonneg {base : Nat} {power : Int} (nonneg : 0 ≤ power) :
    ((base ^ power.natAbs : Nat) : ℚ) = (base : ℚ) ^ power := by
  rw [Nat.cast_pow, ← zpow_natCast, Int.natAbs_of_nonneg nonneg]

theorem natAbs_cast_of_neg {base : Nat} (positive : 0 < base) {power : Int} (neg : power < 0) :
    ((base ^ power.natAbs : Nat) : ℚ) * (base : ℚ) ^ power = 1 := by
  have cast : (base : ℚ) ≠ 0 := by exact_mod_cast positive.ne'
  rw [Nat.cast_pow, ← zpow_natCast, Int.ofNat_natAbs_of_nonpos neg.le, ← zpow_add₀ cast,
    neg_add_cancel, zpow_zero]

/-- The interval and the step of the grid are multiples of one unit. -/
theorem onCommonUnit_eq (interval : Interval) (unit power : Int) :
    ∃ (factor : Nat) (common : ℚ), 0 < common ∧
      (onCommonUnit interval unit power).1 = interval.scale factor ∧
      factor * common = 2 ^ unit ∧ (onCommonUnit interval unit power).2 * common = 10 ^ power := by
  have single : interval = interval.scale 1 := by simp [Interval.scale]
  have twos := @natAbs_cast_of_nonneg 2 unit
  have tens := @natAbs_cast_of_nonneg 10 power
  have halves := @natAbs_cast_of_neg 2 (by decide) unit
  have tenths := @natAbs_cast_of_neg 10 (by decide) power
  simp only [onCommonUnit, Nat.pow_eq]
  by_cases wholeUnit : 0 ≤ unit
  · by_cases wholePower : 0 ≤ power
    · simp only [wholeUnit, wholePower, decide_true]
      exact ⟨_, 1, one_pos, rfl, by rw [mul_one]; exact twos wholeUnit,
        by rw [mul_one]; exact tens wholePower⟩
    · simp only [wholeUnit, wholePower, decide_true, decide_false]
      refine ⟨_, 10 ^ power, by positivity, rfl, ?_, by rw [Nat.cast_one, one_mul]⟩
      rw [Nat.cast_mul, mul_assoc, twos wholeUnit]
      exact mul_right_eq_self₀.mpr (Or.inl (tenths (by omega)))
  · by_cases wholePower : 0 ≤ power
    · simp only [wholeUnit, wholePower, decide_true, decide_false]
      refine ⟨1, 2 ^ unit, by positivity, single, by rw [Nat.cast_one, one_mul], ?_⟩
      rw [Nat.cast_mul, mul_assoc, tens wholePower]
      exact mul_right_eq_self₀.mpr (Or.inl (halves (by omega)))
    · simp only [wholeUnit, wholePower, decide_false]
      refine ⟨_, 2 ^ unit * 10 ^ power, by positivity, rfl, ?_, ?_⟩
      · rw [mul_left_comm]
        exact mul_right_eq_self₀.mpr (Or.inl (tenths (by omega)))
      · rw [← mul_assoc]
        exact mul_left_eq_self₀.mpr (Or.inl (halves (by omega)))

/-- A point that is found on a grid stands for a number in the interval. -/
theorem contains_of_gridPoint? {interval : Interval} {unit power : Int} {point : Nat}
    (found : (onCommonUnit interval unit power).1.gridPoint? (onCommonUnit interval unit power).2 =
      some point) : interval.Contains (point * 10 ^ power / 2 ^ unit) := by
  have holds := Interval.holds_gridPoint? found
  rcases onCommonUnit_eq interval unit power with ⟨factor, common, positive, scaled, twos, tens⟩
  have unitPositive : (0 : ℚ) < 2 ^ unit := by positivity
  have factorPositive : 0 < factor := by
    rw [← twos] at unitPositive
    exact_mod_cast (mul_pos_iff_of_pos_right positive).mp unitPositive
  rw [scaled, Interval.holds_iff, Interval.contains_scale factorPositive] at holds
  rw [← tens, ← twos]
  have cast : (factor : ℚ) ≠ 0 := by exact_mod_cast factorPositive.ne'
  convert holds using 1
  push_cast
  field_simp

/-- A grid as fine as the unit has a point in an interval that reaches a unit down. -/
theorem isSome_gridPoint?_of_le {interval : Interval} {unit power : Int}
    (fine : (10 : ℚ) ^ power ≤ 2 ^ unit) (lower : interval.lower + 1 ≤ interval.centre)
    (upper : interval.centre < interval.upper) :
    ((onCommonUnit interval unit power).1.gridPoint?
      (onCommonUnit interval unit power).2).isSome = true := by
  rcases onCommonUnit_eq interval unit power with ⟨factor, common, positive, scaled, twos, tens⟩
  have unitPositive : (0 : ℚ) < 2 ^ unit := by positivity
  have gridPositive : (0 : ℚ) < 10 ^ power := by positivity
  rw [← twos] at unitPositive
  rw [← tens] at gridPositive
  have factorPositive : 0 < factor := by
    exact_mod_cast (mul_pos_iff_of_pos_right positive).mp unitPositive
  have stepPositive : 0 < (onCommonUnit interval unit power).2 := by
    exact_mod_cast (mul_pos_iff_of_pos_right positive).mp gridPositive
  have step : (onCommonUnit interval unit power).2 ≤ factor := by
    rw [← twos, ← tens] at fine
    exact_mod_cast le_of_mul_le_mul_right fine positive
  rw [scaled]
  refine Interval.isSome_gridPoint? ?_ ?_ stepPositive
  · calc interval.lower * factor + (onCommonUnit interval unit power).2
        ≤ interval.lower * factor + factor := Nat.add_le_add_left step _
      _ = (interval.lower + 1) * factor := by ring
      _ ≤ interval.centre * factor := Nat.mul_le_mul_right factor lower
  · exact Nat.mul_lt_mul_of_pos_right upper factorPositive

/-- Of several grids the first one that has a point gives it. -/
theorem contains_firstGridPoint {interval : Interval} {unit : Int} (grids : Nat) {power : Int}
    (found : ∃ finer : Nat, finer < grids ∧
      ((onCommonUnit interval unit (power - finer)).1.gridPoint?
        (onCommonUnit interval unit (power - finer)).2).isSome = true) :
    interval.Contains ((firstGridPoint interval unit grids power).1 *
      10 ^ (firstGridPoint interval unit grids power).2 / 2 ^ unit) := by
  induction grids generalizing power with
  | zero =>
      rcases found with ⟨_, never, _⟩
      exact absurd never (Nat.not_lt_zero _)
  | succ grids ih =>
      simp only [firstGridPoint]
      split
      · next point here => exact contains_of_gridPoint? here
      · next nothing =>
        refine ih ?_
        rcases found with ⟨finer, within, some⟩
        cases finer with
        | zero =>
            rw [Nat.cast_zero, sub_zero, nothing] at some
            cases some
        | succ finer =>
            refine ⟨finer, by omega, ?_⟩
            rwa [show power - 1 - (finer : Int) = power - (finer + 1 : Nat) by push_cast; ring]

/-! ## Enough grids -/

/-- A decimal logarithm gives a power of ten that is too great by four binary places at most. -/
theorem ten_zpow_le {power magnitude : Int} (scaled : 100000 * power ≤ 30103 * magnitude)
    (least : -1074 ≤ magnitude) (greatest : magnitude ≤ 1023) :
    (10 : ℚ) ^ power ≤ 2 ^ (magnitude + 4) := by
  rcases le_or_gt 0 power with nonneg | neg
  · -- a thousand is less than the tenth power of two
    have cube : ((10 : ℚ) ^ power) ^ 3 ≤ (2 ^ (magnitude + 4)) ^ 3 := by
      calc ((10 : ℚ) ^ power) ^ 3 = (10 ^ 3) ^ power := by
            rw [← zpow_natCast, ← zpow_natCast, zpow_comm]
        _ ≤ (2 ^ (10 : Int)) ^ power := zpow_le_zpow_left₀ nonneg (by norm_num) (by norm_num)
        _ = 2 ^ (10 * power) := by rw [zpow_mul]
        _ ≤ 2 ^ ((magnitude + 4) * 3) := zpow_le_zpow_right₀ one_le_two (by omega)
        _ = (2 ^ (magnitude + 4)) ^ 3 := by rw [zpow_mul]; norm_cast
    exact le_of_pow_le_pow_left₀ (by decide) (by positivity) cube
  · -- a closer bound is needed for the reciprocals, as they may be smaller
    have inverse : ((2 : ℚ) ^ (-(magnitude + 4))) ^ 28 ≤ (10 ^ (-power)) ^ 28 := by
      calc ((2 : ℚ) ^ (-(magnitude + 4))) ^ 28 = 2 ^ (-(magnitude + 4) * 28) := by
            rw [zpow_mul]; norm_cast
        _ ≤ 2 ^ (93 * -power) := zpow_le_zpow_right₀ one_le_two (by omega)
        _ = (2 ^ (93 : Int)) ^ (-power) := by rw [zpow_mul]
        _ ≤ (10 ^ 28) ^ (-power) := zpow_le_zpow_left₀ (by omega) (by norm_num) (by norm_num)
        _ = (10 ^ (-power)) ^ 28 := by rw [← zpow_natCast, ← zpow_natCast, zpow_comm]
    have roots := le_of_pow_le_pow_left₀ (by decide) (by positivity) inverse
    rw [zpow_neg, zpow_neg] at roots
    exact (inv_le_inv₀ (by positivity) (by positivity)).mp roots

/-- The digits of a binary number stand for a number in its interval. -/
theorem contains_shortest {significand : Nat} {exponent : Int}
    (canonical : IsCanonical significand exponent) :
    (roundingInterval significand exponent).Contains
      ((shortest significand exponent).1 * 10 ^ (shortest significand exponent).2 /
        2 ^ (exponent - 2)) := by
  have positive := canonical.positive
  have least := canonical.least
  have greatest := canonical.greatest
  simp only [minExponent] at least
  simp only [maxExponent] at greatest
  have log : significand.log2 ≤ 52 := by
    have := (Nat.log2_lt positive.ne').mpr canonical.small
    omega
  refine contains_firstGridPoint 20 ⟨19, by decide, isSome_gridPoint?_of_le ?_ ?_ ?_⟩
  · -- the last grid is finer by eighteen digits, which are more than fifty-nine binary places
    generalize magnitude : (significand.log2 : Int) + exponent = size
    have close := ten_zpow_le (show 100000 * (size * 30103 / 100000) ≤ 30103 * size by omega)
      (by omega) (by omega)
    calc (10 : ℚ) ^ (size * 30103 / 100000 + 1 - (19 : Nat))
        = 10 ^ (size * 30103 / 100000) * 10 ^ (-18 : Int) := by
          rw [← zpow_add₀ (by norm_num)]
          congr 1
          omega
      _ ≤ 2 ^ (size + 4) * 2 ^ (-59 : Int) := by
          gcongr
          norm_num
      _ = 2 ^ (size - 55) := by
          rw [← zpow_add₀ two_ne_zero]
          congr 1
          ring
      _ ≤ 2 ^ (exponent - 2) := zpow_le_zpow_right₀ one_le_two (by omega)
  · simp only [roundingInterval]
    split <;> omega
  · simp only [roundingInterval]
    omega

/-! ## Zeros at the end -/

theorem dropTrailingZeros_eq (bound digits : Nat) (power : Int) :
    ((dropTrailingZeros bound digits power).1 * 10 ^ (dropTrailingZeros bound digits power).2 : ℚ) =
      digits * 10 ^ power := by
  induction bound generalizing digits power with
  | zero => rfl
  | succ bound ih =>
      simp only [dropTrailingZeros]
      split
      · next zero =>
        have whole : digits = 10 * (digits / 10) := by omega
        rw [ih, zpow_add_one₀ (by norm_num)]
        conv_rhs => rw [whole]
        push_cast
        ring
      · rfl

/-! ## Digits that are not zero -/

theorem Interval.pos_of_holds {interval : Interval} (positive : 0 < interval.lower) {point : Nat}
    (holds : interval.holds point = true) : 0 < point := by
  rw [Interval.holds] at holds
  split at holds
  · simp only [Bool.and_eq_true, decide_eq_true_eq] at holds
    omega
  · simp only [Bool.and_eq_true, decide_eq_true_eq] at holds
    omega

theorem Interval.gridPoint?_pos {interval : Interval} (positive : 0 < interval.lower)
    {step point : Nat} (found : interval.gridPoint? step = some point) : 0 < point := by
  have below_pos : interval.holds (interval.centre / step * step) = true →
      0 < interval.centre / step := by
    intro holds
    exact Nat.pos_of_mul_pos_right (pos_of_holds positive holds)
  simp only [Interval.gridPoint?] at found
  split at found
  · next both =>
    rw [Bool.and_eq_true] at both
    have := below_pos both.1
    split at found
    · exact Option.some.inj found ▸ this
    · split at found
      · exact Option.some.inj found ▸ Nat.succ_pos _
      · rw [← Option.some.inj found]
        split
        · exact this
        · exact Nat.succ_pos _
  · split at found
    · next holds => exact Option.some.inj found ▸ below_pos holds
    · split at found
      · exact Option.some.inj found ▸ Nat.succ_pos _
      · cases found

theorem lower_onCommonUnit_pos {interval : Interval} (positive : 0 < interval.lower)
    (unit power : Int) : 0 < (onCommonUnit interval unit power).1.lower := by
  have twos : 0 < Nat.pow 2 unit.natAbs := Nat.pow_pos (by decide)
  have tens : 0 < Nat.pow 10 power.natAbs := Nat.pow_pos (by decide)
  simp only [onCommonUnit]
  split
  · exact Nat.mul_pos positive twos
  · exact Nat.mul_pos positive (Nat.mul_pos twos tens)
  · exact positive
  · exact Nat.mul_pos positive tens

theorem firstGridPoint_pos {interval : Interval} (positive : 0 < interval.lower) (unit : Int)
    (grids : Nat) (power : Int) : 0 < (firstGridPoint interval unit grids power).1 := by
  induction grids generalizing power with
  | zero => simp [firstGridPoint]
  | succ grids ih =>
      simp only [firstGridPoint]
      split
      · next found =>
        exact Interval.gridPoint?_pos (lower_onCommonUnit_pos positive unit power) found
      · exact ih (power - 1)

theorem shortest_pos {significand : Nat} (positive : 0 < significand) (exponent : Int) :
    0 < (shortest significand exponent).1 := by
  apply firstGridPoint_pos
  simp only [roundingInterval]
  split <;> omega

theorem dropTrailingZeros_pos (bound : Nat) {digits : Nat} (positive : 0 < digits) (power : Int) :
    0 < (dropTrailingZeros bound digits power).1 := by
  induction bound generalizing digits power with
  | zero => exact positive
  | succ bound ih =>
      simp only [dropTrailingZeros]
      split
      · exact ih (by omega) (power + 1)
      · exact positive

end Rulebook.Binary64
