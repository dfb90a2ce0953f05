import Mathlib
import Rulebook.Json.Printer
import Rulebook.Proofs.Json.Layout

/-!
# Binary numbers in JSON text

The text of a finite binary number has whole digits and, behind them, a point, an exponent or both.
The reader takes all of it and nothing else for a number, so that a binary number always stands for
some number again; the numbers that JSON does not have are read by their names.
-/

namespace Rulebook.Json

/-! ## The parts of a number -/

theorem scanDecimals_append {decimals rest : List Char} (areDecimals : ArePlainDigits decimals)
    (ends : NoDigitHead rest) : scanDecimals ('.' :: decimals ++ rest) = (some decimals, rest) := by
  simp [scanDecimals, spanDigits_append areDecimals.2 ends, areDecimals.1]

theorem scanExponent_append (negative : Bool) {digits rest : List Char}
    (areDigits : ArePlainDigits digits) (ends : NoDigitHead rest) :
    scanExponent ('e' :: (if negative then '-' else '+') :: digits ++ rest) =
      (some (negative, digits), rest) := by
  cases negative <;> simp [scanExponent, spanDigits_append areDigits.2 ends, areDigits.1]

/-- A number with a point or an exponent is read to its end, and not as a whole number. -/
theorem IsNumeral.scanNumeral? {text : List Char} {digits : Nat} {power : Int}
    (isNumeral : IsNumeral text digits power) (negative : Bool) :
    ∃ numeral, numeral.isWhole = false ∧ ∀ rest, EndsNumber rest →
      Json.scanNumeral? ((if negative then ['-'] else []) ++ (text ++ rest)) =
        some (numeral, rest) := by
  cases isNumeral with
  | @point whole decimals isWhole areDecimals =>
      refine ⟨⟨negative, whole, some decimals, none⟩, rfl, fun rest ends => ?_⟩
      rw [List.append_assoc]
      exact scanNumeral?_append negative isWhole (noDigitHead_cons (by decide))
        (scanDecimals_append areDecimals ends.noDigitHead) (scanExponent_of_ends ends)
  | @power whole digits isWhole signed areDigits =>
      refine ⟨⟨negative, whole, none, some (signed, digits)⟩, rfl, fun rest ends => ?_⟩
      rw [List.append_assoc]
      exact scanNumeral?_append negative isWhole (noDigitHead_cons (by decide)) rfl
        (scanExponent_append signed areDigits ends.noDigitHead)
  | @both whole decimals digits isWhole areDecimals signed areDigits =>
      refine ⟨⟨negative, whole, some decimals, some (signed, digits)⟩, rfl, fun rest ends => ?_⟩
      rw [List.append_assoc, List.append_assoc]
      exact scanNumeral?_append negative isWhole (noDigitHead_cons (by decide))
        (scanDecimals_append areDecimals (noDigitHead_cons (by decide)))
        (scanExponent_append signed areDigits ends.noDigitHead)

/-! ## The text of a binary number -/

/-- A binary number is read as some number, and its text to the end. -/
theorem exists_scanScalar_realText (number : Binary64) :
    ∃ read, ∀ rest, EndsNumber rest → scanScalar (realText number ++ rest) = .ok (read, rest) := by
  cases number with
  | undefined => exact ⟨.real .undefined, fun _ _ => rfl⟩
  | infinity negative =>
      cases negative
      · exact ⟨.real (.infinity false), fun _ _ => rfl⟩
      · exact ⟨.real (.infinity true), fun _ _ => rfl⟩
  | finite negative significand exponent =>
      rcases exists_isNumeral_finiteText negative significand exponent with
        ⟨magnitude, _, _, is, split, _⟩
      rcases is.scanNumeral? negative with ⟨numeral, notWhole, scanned⟩
      rcases is.head with ⟨first, more, head, digit⟩
      refine ⟨.real numeral.toReal, fun rest ends => ?_⟩
      have notNamed :
          scanNamed? ((if negative then ['-'] else []) ++ (magnitude ++ rest)) = none := by
        rw [head]
        exact scanNamed?_of_isPlainDigit negative digit (more ++ rest)
      have textEq : realText (.finite negative significand exponent) ++ rest =
          (if negative then ['-'] else []) ++ (magnitude ++ rest) := by
        rw [← List.append_assoc, ← split]
        rfl
      rw [textEq, scanScalar, notNamed, scanned rest ends]
      simp [notWhole]

end Rulebook.Json
