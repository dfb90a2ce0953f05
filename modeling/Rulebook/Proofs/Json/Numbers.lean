import Mathlib
import Rulebook.Json.Parser
import Rulebook.Proofs.Text.Decimal

/-!
# Numbers in JSON text

The decimal text of an integer is read back as the integer, provided that what follows cannot be
taken for more of it and that it has no more digits than are converted. The whole digits in front
of a number are read up to the first character that is no digit, whatever kind of number it is.
-/

namespace Rulebook.Json

/-- What follows a number: no digit, point or exponent mark. -/
def EndsNumber (rest : List Char) : Prop :=
  ∀ character tail, rest = character :: tail →
    isPlainDigit character = false ∧ character ≠ '.' ∧ character ≠ 'e' ∧ character ≠ 'E'

/-- The text does not begin with a plain digit. -/
def NoDigitHead (rest : List Char) : Prop :=
  ∀ character tail, rest = character :: tail → isPlainDigit character = false

/-- The digits with which a number can begin: a zero alone, or digits that do not begin with one. -/
structure IsWholePart (digits : List Char) : Prop where
  filled : digits ≠ []
  plain : ∀ character ∈ digits, isPlainDigit character = true
  /-- A leading zero stands alone. -/
  leading : ∀ rest, digits = '0' :: rest → rest = []

/-- The integer has no more digits than are converted. -/
def IsShort (value : Int) : Prop :=
  (Text.decimal value.natAbs).length ≤ digitLimit

instance (value : Int) : Decidable (IsShort value) :=
  inferInstanceAs (Decidable (_ ≤ _))

theorem endsNumber_nil : EndsNumber [] := by
  intro character tail impossible
  cases impossible

theorem endsNumber_cons {first : Char} {rest : List Char}
    (other : isPlainDigit first = false ∧ first ≠ '.' ∧ first ≠ 'e' ∧ first ≠ 'E') :
    EndsNumber (first :: rest) := by
  intro character tail split
  cases split
  exact other

theorem signedDecimal_eq (value : Int) :
    Text.signedDecimal value =
      (if value < 0 then ['-'] else []) ++ Text.decimal value.natAbs := by
  cases value with
  | ofNat number => simp [Text.signedDecimal]
  | negSucc number => simp [Text.signedDecimal]

theorem EndsNumber.noDigitHead {rest : List Char} (ends : EndsNumber rest) : NoDigitHead rest :=
  fun character tail split => (ends character tail split).1

theorem noDigitHead_cons {first : Char} {rest : List Char} (other : isPlainDigit first = false) :
    NoDigitHead (first :: rest) := by
  intro character tail split
  cases split
  exact other

theorem spanDigits_append {digits rest : List Char}
    (plain : ∀ character ∈ digits, isPlainDigit character = true) (ends : NoDigitHead rest) :
    spanDigits (digits ++ rest) = (digits, rest) := by
  have noneLeft : rest.takeWhile isPlainDigit = [] ∧ rest.dropWhile isPlainDigit = rest := by
    cases rest with
    | nil => simp
    | cons first more => simp [ends first more rfl]
  rw [spanDigits, List.takeWhile_append_of_pos plain, List.dropWhile_append_of_pos plain,
    noneLeft.1, noneLeft.2, List.append_nil]

theorem scanWhole?_append {digits rest : List Char} (whole : IsWholePart digits)
    (ends : NoDigitHead rest) : scanWhole? (digits ++ rest) = some (digits, rest) := by
  have spanned := spanDigits_append whole.plain ends
  rw [scanWhole?.eq_def]
  split
  · next after leading =>
    rcases List.exists_cons_of_ne_nil whole.filled with ⟨first, more, split⟩
    rw [split, List.cons_append, List.cons_eq_cons] at leading
    rw [leading.1] at split
    rw [split, ← leading.2, whole.leading more split]
    rfl
  · simp [spanned, whole.filled]

theorem isWholePart_decimal (number : Nat) : IsWholePart (Text.decimal number) where
  filled := Text.decimal_ne_nil number
  plain := Text.isPlainDigit_of_mem_decimal number
  leading := by
    intro rest leading
    have zero : number = 0 := Text.eq_zero_of_decimal_eq_cons leading
    rw [zero, Text.decimal_of_lt (by decide)] at leading
    exact (List.cons_eq_cons.mp leading).2.symm

theorem scanDecimals_of_ends {rest : List Char} (ends : EndsNumber rest) :
    scanDecimals rest = (none, rest) := by
  rw [scanDecimals.eq_def]
  split
  · next after => exact absurd rfl (ends '.' after rfl).2.1
  · rfl

theorem scanExponent_of_ends {rest : List Char} (ends : EndsNumber rest) :
    scanExponent rest = (none, rest) := by
  cases rest with
  | nil => rfl
  | cons first more =>
      rcases ends first more rfl with ⟨_, _, lower, upper⟩
      simp [scanExponent, lower, upper]

/-- A number is scanned in its parts, of which the whole digits come first. -/
theorem scanNumeral?_append (negative : Bool) {digits after afterDecimals rest : List Char}
    {decimals : Option (List Char)} {exponent : Option (Bool × List Char)}
    (whole : IsWholePart digits) (ends : NoDigitHead after)
    (scanned : scanDecimals after = (decimals, afterDecimals))
    (scannedLast : scanExponent afterDecimals = (exponent, rest)) :
    scanNumeral? ((if negative then ['-'] else []) ++ (digits ++ after)) =
      some (⟨negative, digits, decimals, exponent⟩, rest) := by
  have scannedWhole := scanWhole?_append whole ends
  cases negative with
  | true => simp [scanNumeral?, scannedWhole, scanned, scannedLast]
  | false =>
      -- Without a sign the first character is a digit and is not taken for one.
      rcases List.exists_cons_of_ne_nil whole.filled with ⟨first, more, split⟩
      have digit : isPlainDigit first = true := whole.plain first (by simp [split])
      have noSign : ∀ tail, digits ++ after ≠ '-' :: tail := by
        intro tail same
        rw [split, List.cons_append, List.cons_eq_cons] at same
        rw [same.1] at digit
        exact absurd digit (by decide)
      simp only [Bool.false_eq_true, if_false, List.nil_append]
      rw [scanNumeral?.eq_def]
      split
      next signed unsigned split =>
      split at split
      · next tail same => exact absurd same (noSign tail)
      · cases split
        simp [scannedWhole, scanned, scannedLast]

theorem scanNumeral?_signedDecimal (value : Int) {rest : List Char} (ends : EndsNumber rest) :
    scanNumeral? (Text.signedDecimal value ++ rest) =
      some (⟨decide (value < 0), Text.decimal value.natAbs, none, none⟩, rest) := by
  have scanned := scanNumeral?_append (decide (value < 0)) (isWholePart_decimal value.natAbs)
    ends.noDigitHead (scanDecimals_of_ends ends) (scanExponent_of_ends ends)
  simpa [signedDecimal_eq] using scanned

theorem toInt_numeral (value : Int) :
    Numeral.toInt ⟨decide (value < 0), Text.decimal value.natAbs, none, none⟩ = value := by
  simp only [Numeral.toInt, Text.plainNumber_decimal, decide_eq_true_eq]
  split <;> omega

theorem signedDecimal_head (value : Int) :
    (∃ first rest, Text.signedDecimal value = first :: rest ∧ isPlainDigit first = true) ∨
      ∃ first rest, Text.signedDecimal value = '-' :: first :: rest ∧
        isPlainDigit first = true := by
  rcases List.exists_cons_of_ne_nil (Text.decimal_ne_nil value.natAbs) with ⟨first, rest, split⟩
  have digit : isPlainDigit first = true :=
    Text.isPlainDigit_of_mem_decimal value.natAbs first (by simp [split])
  rw [signedDecimal_eq, split]
  by_cases negative : value < 0
  · exact Or.inr ⟨first, rest, by simp [negative], digit⟩
  · exact Or.inl ⟨first, rest, by simp [negative], digit⟩

/-- No named value begins with a digit, with or without a minus sign before it. -/
theorem scanNamed?_of_isPlainDigit (negative : Bool) {first : Char}
    (digit : isPlainDigit first = true) (rest : List Char) :
    scanNamed? ((if negative then ['-'] else []) ++ first :: rest) = none := by
  have noLetter : 'n' ≠ first ∧ 't' ≠ first ∧ 'f' ≠ first ∧ 'N' ≠ first ∧ 'I' ≠ first ∧
      '-' ≠ first := by
    refine ⟨?_, ?_, ?_, ?_, ?_, ?_⟩ <;> (rintro rfl; exact absurd digit (by decide))
  cases negative with
  | true => simp [scanNamed?, namedValues, noLetter]
  | false => simp [scanNamed?, namedValues, noLetter]

theorem scanNamed?_signedDecimal (value : Int) (rest : List Char) :
    scanNamed? (Text.signedDecimal value ++ rest) = none := by
  rcases List.exists_cons_of_ne_nil (Text.decimal_ne_nil value.natAbs) with ⟨first, more, split⟩
  have digit : isPlainDigit first = true :=
    Text.isPlainDigit_of_mem_decimal value.natAbs first (by simp [split])
  have named := scanNamed?_of_isPlainDigit (decide (value < 0)) digit (more ++ rest)
  simpa [signedDecimal_eq, split] using named

theorem scanScalar_signedDecimal {value : Int} (short : IsShort value) {rest : List Char}
    (ends : EndsNumber rest) :
    scanScalar (Text.signedDecimal value ++ rest) = .ok (int value, rest) := by
  have converted : ¬digitLimit < (Text.decimal value.natAbs).length := Nat.not_lt.mpr short
  rw [scanScalar, scanNamed?_signedDecimal, scanNumeral?_signedDecimal value ends]
  simp [Numeral.isWhole, converted, toInt_numeral]

end Rulebook.Json
