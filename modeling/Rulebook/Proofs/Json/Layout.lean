import Mathlib
import Rulebook.Proofs.Json.Numbers
import Rulebook.Proofs.Number.Shortest

/-!
# The text of a binary number

The shortest digits of a binary number are laid out with a point, with an exponent or with both, and
however they are, the text denotes the number that the digits stand for. So it is rounded to the
binary number again: a finite binary number is what is read back from its text.
-/

namespace Rulebook.Json

/-! ## Plain digits -/

/-- The text is not empty and consists of plain digits. -/
def ArePlainDigits (digits : List Char) : Prop :=
  digits ≠ [] ∧ ∀ character ∈ digits, isPlainDigit character = true

theorem decimal_ne_zero_cons {number : Nat} (positive : 0 < number) (rest : List Char) :
    Text.decimal number ≠ '0' :: rest := by
  intro leading
  have := Text.eq_zero_of_decimal_eq_cons leading
  omega

/-- Digits that begin like the decimal text of a positive number begin with no zero. -/
theorem isWholePart_of_begins {number : Nat} (positive : 0 < number) {digits more : List Char}
    (filled : digits ≠ []) (plain : ∀ character ∈ digits, isPlainDigit character = true)
    (begins : digits ++ more = Text.decimal number) : IsWholePart digits where
  filled := filled
  plain := plain
  leading := by
    rintro rest rfl
    exact absurd begins.symm (decimal_ne_zero_cons positive _)

theorem arePlainDigits_decimal (number : Nat) : ArePlainDigits (Text.decimal number) :=
  ⟨Text.decimal_ne_nil number, Text.isPlainDigit_of_mem_decimal number⟩

theorem ArePlainDigits.append_left {left right : List Char}
    (zeros : ∀ character ∈ left, character = '0') (digits : ArePlainDigits right) :
    ArePlainDigits (left ++ right) := by
  refine ⟨by simp [digits.1], ?_⟩
  intro character mem
  rcases List.mem_append.mp mem with inLeft | inRight
  · rw [zeros character inLeft]
    decide
  · exact digits.2 character inRight

theorem isWholePart_zero : IsWholePart ['0'] where
  filled := List.cons_ne_nil _ _
  plain := by
    intro character mem
    rw [List.mem_singleton.mp mem]
    rfl
  leading := fun _ same => (List.cons.inj same).2.symm

/-- Zeros behind the digits of a positive number leave a number without a leading zero. -/
theorem isWholePart_decimal_append {number : Nat} (positive : 0 < number) {zeros : List Char}
    (onlyZeros : ∀ character ∈ zeros, character = '0') :
    IsWholePart (Text.decimal number ++ zeros) where
  filled := by simp [Text.decimal_ne_nil]
  plain := by
    intro character mem
    rcases List.mem_append.mp mem with inDigits | inZeros
    · exact Text.isPlainDigit_of_mem_decimal number character inDigits
    · rw [onlyZeros character inZeros]
      rfl
  leading := by
    intro rest same
    rcases List.exists_cons_of_ne_nil (Text.decimal_ne_nil number) with ⟨first, more, split⟩
    rw [split, List.cons_append, List.cons_eq_cons] at same
    exact absurd (by rw [split, same.1]) (decimal_ne_zero_cons positive more)

theorem arePlainDigits_zero : ArePlainDigits ['0'] :=
  ⟨isWholePart_zero.filled, isWholePart_zero.plain⟩

theorem plainNumber_append (left right : List Char) :
    plainNumber (left ++ right) = plainNumber left * 10 ^ right.length + plainNumber right := by
  have onto : ∀ (digits : List Char) (number : Nat),
      digits.foldl (fun number digit => 10 * number + (digit.toNat - 0x30)) number =
        number * 10 ^ digits.length + plainNumber digits := by
    intro digits
    induction digits with
    | nil => simp [plainNumber]
    | cons first rest ih =>
        intro number
        have head : plainNumber (first :: rest) =
            (10 * 0 + (first.toNat - 0x30)) * 10 ^ rest.length + plainNumber rest := ih _
        rw [List.foldl_cons, ih, head, List.length_cons, pow_succ]
        ring
  rw [plainNumber, List.foldl_append, onto]
  rfl

theorem plainNumber_replicate_zero (count : Nat) : plainNumber (List.replicate count '0') = 0 := by
  induction count with
  | zero => rfl
  | succ count ih =>
      rw [List.replicate_succ, ← List.singleton_append, plainNumber_append, ih]
      simp [plainNumber]

/-! ## Numerals -/

/-- The text of a number without its sign that cannot be taken for a whole number, with the whole
number that its digits are and the power of ten by which this is to be multiplied. -/
inductive IsNumeral : List Char → (digits : Nat) → (power : Int) → Prop
  | point {whole decimals : List Char} (isWhole : IsWholePart whole)
      (areDecimals : ArePlainDigits decimals) :
      IsNumeral (whole ++ '.' :: decimals) (plainNumber (whole ++ decimals)) (-decimals.length)
  | power {whole digits : List Char} (isWhole : IsWholePart whole) (negative : Bool)
      (areDigits : ArePlainDigits digits) :
      IsNumeral (whole ++ 'e' :: (if negative then '-' else '+') :: digits) (plainNumber whole)
        (if negative then -(plainNumber digits : Int) else plainNumber digits)
  | both {whole decimals digits : List Char} (isWhole : IsWholePart whole)
      (areDecimals : ArePlainDigits decimals) (negative : Bool)
      (areDigits : ArePlainDigits digits) :
      IsNumeral (whole ++ '.' :: decimals ++ 'e' :: (if negative then '-' else '+') :: digits)
        (plainNumber (whole ++ decimals))
        ((if negative then -(plainNumber digits : Int) else plainNumber digits) - decimals.length)

namespace IsNumeral

variable {text : List Char} {digits : Nat} {power : Int}

/-- The whole digits come first, and behind them a point or the mark of an exponent. -/
theorem exists_split (numeral : IsNumeral text digits power) :
    ∃ whole mark after, IsWholePart whole ∧ (mark = '.' ∨ mark = 'e') ∧
      text = whole ++ mark :: after := by
  cases numeral with
  | point isWhole _ => exact ⟨_, _, _, isWhole, Or.inl rfl, rfl⟩
  | power isWhole _ _ => exact ⟨_, _, _, isWhole, Or.inr rfl, rfl⟩
  | both isWhole _ _ _ => exact ⟨_, _, _, isWhole, Or.inl rfl, List.append_assoc _ _ _⟩

theorem head (numeral : IsNumeral text digits power) :
    ∃ first rest, text = first :: rest ∧ isPlainDigit first = true := by
  rcases numeral.exists_split with ⟨whole, mark, after, isWhole, _, rfl⟩
  rcases List.exists_cons_of_ne_nil isWhole.filled with ⟨first, rest, rfl⟩
  exact ⟨first, rest ++ mark :: after, rfl, isWhole.plain first List.mem_cons_self⟩

theorem last (numeral : IsNumeral text digits power) :
    ∃ front digits, ArePlainDigits digits ∧ text = front ++ digits := by
  cases numeral with
  | @point whole decimals _ areDecimals =>
      exact ⟨whole ++ ['.'], decimals, areDecimals, by simp⟩
  | @power whole digits _ negative areDigits =>
      exact ⟨whole ++ ['e', if negative then '-' else '+'], digits, areDigits, by simp⟩
  | @both whole decimals digits _ _ negative areDigits =>
      exact ⟨whole ++ '.' :: decimals ++ ['e', if negative then '-' else '+'], digits, areDigits,
        by simp⟩

/-- A numeral is written with digits, points, exponent marks and signs. -/
theorem isPlainDigit_or_mem (numeral : IsNumeral text digits power) :
    ∀ character ∈ text, isPlainDigit character = true ∨ character ∈ ['.', 'e', '+', '-'] := by
  cases numeral with
  | point isWhole areDecimals =>
      intro character mem
      rw [List.mem_append, List.mem_cons] at mem
      rcases mem with inWhole | rfl | inDecimals
      · exact Or.inl (isWhole.plain character inWhole)
      · decide
      · exact Or.inl (areDecimals.2 character inDecimals)
  | power isWhole negative areDigits =>
      intro character mem
      rw [List.mem_append, List.mem_cons, List.mem_cons] at mem
      rcases mem with inWhole | rfl | rfl | inDigits
      · exact Or.inl (isWhole.plain character inWhole)
      · decide
      · cases negative <;> decide
      · exact Or.inl (areDigits.2 character inDigits)
  | both isWhole areDecimals negative areDigits =>
      intro character mem
      rw [List.mem_append, List.mem_append, List.mem_cons, List.mem_cons, List.mem_cons] at mem
      rcases mem with (inWhole | rfl | inDecimals) | rfl | rfl | inDigits
      · exact Or.inl (isWhole.plain character inWhole)
      · decide
      · exact Or.inl (areDecimals.2 character inDecimals)
      · decide
      · cases negative <;> decide
      · exact Or.inl (areDigits.2 character inDigits)

end IsNumeral

theorem exists_exponentText_eq (exponent : Int) :
    ∃ negative digits, ArePlainDigits digits ∧
      (if negative = true then -(plainNumber digits : Int) else plainNumber digits) = exponent ∧
      Binary64.exponentText exponent = 'e' :: (if negative = true then '-' else '+') :: digits := by
  refine ⟨decide (exponent < 0), Text.padLeft 2 '0' (Text.decimal exponent.natAbs), ?_, ?_, ?_⟩
  · exact (arePlainDigits_decimal _).append_left fun _ mem => List.eq_of_mem_replicate mem
  · rw [Text.padLeft, plainNumber_append, plainNumber_replicate_zero, zero_mul, zero_add,
      Text.plainNumber_decimal]
    by_cases negative : exponent < 0
    · simp only [negative, decide_true, if_true]
      omega
    · simp only [negative, decide_false, Bool.false_eq_true, if_false]
      omega
  · simp [Binary64.exponentText]

/-- A numeral for the number `digits · 10 ^ power`, whatever digits stand in it. -/
def IsNumeralFor (text : List Char) (digits : Nat) (power : Int) : Prop :=
  ∃ written exponent, IsNumeral text written exponent ∧
    (written : ℚ) * 10 ^ exponent = digits * 10 ^ power

theorem IsNumeral.isNumeralFor {text : List Char} {digits written : Nat} {power exponent : Int}
    (numeral : IsNumeral text written exponent) (sameDigits : written = digits)
    (samePower : exponent = power) : IsNumeralFor text digits power :=
  ⟨written, exponent, numeral, by rw [sameDigits, samePower]⟩

/-- A point after some but not all of the digits. -/
theorem isNumeralFor_take_drop {digits point : Nat} {power : Int} (positive : 0 < digits)
    (some : 0 < point) (inside : point < (Text.decimal digits).length)
    (stands : (point : Int) = (Text.decimal digits).length + power) :
    IsNumeralFor ((Text.decimal digits).take point ++ '.' :: (Text.decimal digits).drop point)
      digits power := by
  have plain := Text.isPlainDigit_of_mem_decimal digits
  have filled : (Text.decimal digits).take point ≠ [] := by
    rw [ne_eq, List.take_eq_nil_iff]
    rintro (none | noDigits)
    · omega
    · exact Text.decimal_ne_nil digits noDigits
  have wholeDigits : IsWholePart ((Text.decimal digits).take point) :=
    isWholePart_of_begins positive filled
      (fun character mem => plain character (List.mem_of_mem_take mem))
      (List.take_append_drop point _)
  have decimals : ArePlainDigits ((Text.decimal digits).drop point) := by
    refine ⟨?_, fun character mem => plain character (List.mem_of_mem_drop mem)⟩
    rw [ne_eq, List.drop_eq_nil_iff]
    omega
  refine (IsNumeral.point wholeDigits decimals).isNumeralFor ?_ ?_
  · rw [List.take_append_drop, Text.plainNumber_decimal]
  · rw [List.length_drop]
    omega

/-- A point before the digits, with zeros between them. -/
theorem isNumeralFor_zeros_append {digits zeros : Nat} {power : Int}
    (stands : (zeros : Int) = -((Text.decimal digits).length + power)) :
    IsNumeralFor ('0' :: '.' :: (List.replicate zeros '0' ++ Text.decimal digits))
      digits power := by
  refine (IsNumeral.point isWholePart_zero ((arePlainDigits_decimal digits).append_left
    fun _ mem => List.eq_of_mem_replicate mem)).isNumeralFor ?_ ?_
  · rw [plainNumber_append, plainNumber_append, plainNumber_replicate_zero,
      Text.plainNumber_decimal]
    simp [plainNumber]
  · rw [List.length_append, List.length_replicate]
    omega

/-- A point after the digits, with zeros between them. -/
theorem isNumeralFor_append_zeros {digits : Nat} (positive : 0 < digits) (zeros : Nat) :
    IsNumeralFor (Text.decimal digits ++ List.replicate zeros '0' ++ ['.', '0'])
      digits zeros := by
  refine ⟨_, _, .point (isWholePart_decimal_append positive
    fun _ mem => List.eq_of_mem_replicate mem) arePlainDigits_zero, ?_⟩
  rw [plainNumber_append, plainNumber_append, plainNumber_replicate_zero,
    Text.plainNumber_decimal, List.length_replicate]
  simp [plainNumber]

/-- A point after the first of the digits, and the exponent that moves it back. -/
theorem isNumeralFor_point_exponent {digits : Nat} {first : Char} {decimals : List Char}
    (positive : 0 < digits) (split : Text.decimal digits = first :: decimals)
    (further : decimals ≠ []) (power : Int) :
    IsNumeralFor (first :: '.' :: decimals ++
      Binary64.exponentText ((Text.decimal digits).length + power - 1)) digits power := by
  rcases exists_exponentText_eq (((Text.decimal digits).length : Int) + power - 1) with
    ⟨negative, exponent, areDigits, value, exponentText⟩
  have plain := Text.isPlainDigit_of_mem_decimal digits
  rw [split, List.forall_mem_cons] at plain
  have whole : IsWholePart [first] := isWholePart_of_begins positive (List.cons_ne_nil _ _)
    (fun character mem => List.mem_singleton.mp mem ▸ plain.1) split.symm
  rw [exponentText]
  refine (IsNumeral.both whole ⟨further, plain.2⟩ negative areDigits).isNumeralFor ?_ ?_
  · rw [List.singleton_append, ← split, Text.plainNumber_decimal]
  · rw [value, split]
    push_cast [List.length_cons]
    ring

/-- A digit that stands alone, and an exponent. -/
theorem isNumeralFor_digit_exponent {digits : Nat} (single : (Text.decimal digits).length = 1)
    (power : Int) :
    IsNumeralFor (Text.decimal digits ++
      Binary64.exponentText ((Text.decimal digits).length + power - 1)) digits power := by
  rcases exists_exponentText_eq (((Text.decimal digits).length : Int) + power - 1) with
    ⟨negative, exponent, areDigits, value, exponentText⟩
  rw [exponentText]
  refine (IsNumeral.power (isWholePart_decimal digits) negative areDigits).isNumeralFor
    (Text.plainNumber_decimal digits) ?_
  rw [value, single]
  push_cast
  ring

/-- Wherever the point stands, the text denotes the same number. -/
theorem isNumeralFor_layOut {digits : Nat} (positive : 0 < digits) (power : Int) :
    IsNumeralFor (Binary64.layOut digits power) digits power := by
  simp only [Binary64.layOut]
  split
  · -- Without an exponent the point stands before, behind or between the digits.
    split
    · next before => exact isNumeralFor_zeros_append (by omega)
    · split
      · next whole =>
        lift power to ℕ using whole
        exact isNumeralFor_append_zeros positive power
      · next between => exact isNumeralFor_take_drop positive (by omega) (by omega) (by omega)
  · split
    · next first second rest split =>
      exact isNumeralFor_point_exponent positive split (List.cons_ne_nil _ _) power
    · next short =>
      have single : (Text.decimal digits).length = 1 := by
        rcases List.exists_cons_of_ne_nil (Text.decimal_ne_nil digits) with ⟨first, rest, split⟩
        cases rest with
        | nil => rw [split, List.length_singleton]
        | cons second more => exact absurd split (short first second more)
      exact isNumeralFor_digit_exponent single power

/-! ## Finite numbers -/

/-- The text of a number without its sign is a numeral for its shortest digits, or for zero. -/
theorem exists_isNumeral_finiteText (negative : Bool) (significand : Nat) (exponent : Int) :
    ∃ magnitude digits power, IsNumeral magnitude digits power ∧
      Binary64.finiteText negative significand exponent =
        (if negative then ['-'] else []) ++ magnitude ∧
      (digits * 10 ^ power : ℚ) = if significand = 0 then 0 else
        ((Binary64.shortest significand exponent).1 *
          10 ^ (Binary64.shortest significand exponent).2 : ℚ) := by
  by_cases zero : significand = 0
  · refine ⟨['0', '.', '0'], _, _, .point isWholePart_zero arePlainDigits_zero, ?_, ?_⟩
    · cases negative <;> simp [Binary64.finiteText, zero]
    · simp [plainNumber, zero]
  · have positive := Binary64.dropTrailingZeros_pos 20
      (Binary64.shortest_pos (Nat.pos_of_ne_zero zero) exponent)
      (Binary64.shortest significand exponent).2
    rcases isNumeralFor_layOut positive (Binary64.dropTrailingZeros 20
      (Binary64.shortest significand exponent).1 (Binary64.shortest significand exponent).2).2 with
      ⟨digits, power, numeral, value⟩
    refine ⟨_, digits, power, numeral, ?_, ?_⟩
    · cases negative <;> simp [Binary64.finiteText, zero]
    · rw [value, Binary64.dropTrailingZeros_eq, if_neg zero]

/-- The text of a finite number, without its sign, is a numeral that is rounded to the number. -/
theorem exists_isNumeral_text {number : Binary64} (finite : number.IsFiniteNumber) :
    ∃ negative magnitude digits power, IsNumeral magnitude digits power ∧
      number.text = (if negative = true then ['-'] else []) ++ magnitude ∧
      Binary64.ofDecimal negative digits power = number := by
  cases finite with
  | @finite negative significand exponent small least greatest full =>
  rcases exists_isNumeral_finiteText negative significand exponent with
    ⟨magnitude, digits, power, numeral, text, value⟩
  refine ⟨negative, magnitude, digits, power, numeral, text, ?_⟩
  rcases Nat.eq_zero_or_pos significand with rfl | positive
  · -- a zero has the least exponent
    have zero : exponent = Binary64.minExponent := by
      by_contra other
      have := full (lt_of_le_of_ne least (Ne.symm other))
      omega
    have noDigits : digits = 0 := by
      rw [if_pos rfl] at value
      exact_mod_cast (mul_eq_zero_iff_right (by positivity)).mp value
    rw [noDigits, zero]
    rfl
  · have canonical : Binary64.IsCanonical significand exponent :=
      ⟨positive, small, least, greatest, full⟩
    have within := Binary64.contains_shortest canonical
    rw [if_neg positive.ne'] at value
    have digitsPositive : 0 < digits := by
      have shortest := Binary64.shortest_pos positive exponent
      have scaled : (0 : ℚ) < digits * 10 ^ power := by
        rw [value]
        exact mul_pos (by exact_mod_cast shortest) (by positivity)
      exact_mod_cast (mul_pos_iff_of_pos_right (by positivity)).mp scaled
    rw [← value] at within
    exact Binary64.ofDecimal_eq_finite canonical digitsPositive
      (Binary64.isNear_of_contains positive within) negative

end Rulebook.Json
