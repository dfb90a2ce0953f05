import Mathlib
import Rulebook.Json.Scanner
import Rulebook.Proofs.Text.Trimming

/-!
# Decimal digits

The decimal text of a number consists of plain digits, begins with a zero only if the number is
zero, and denotes the number, whichever of the two readers of digits reads it. All statements go
by one induction: a number has one digit, or it has the digits of a tenth of it and one more.
-/

namespace Rulebook.Text

open Json (isPlainDigit plainNumber)

/-- Induction along the decimal digits of a number, the last one first. -/
theorem decimal_induction {motive : Nat → Prop}
    (digit : ∀ number, number < 10 → motive number)
    (more : ∀ number, 10 ≤ number → motive (number / 10) → motive number)
    (number : Nat) : motive number := by
  induction number using Nat.strongRecOn with
  | ind number ih =>
      rcases Nat.lt_or_ge number 10 with small | large
      · exact digit number small
      · exact more number large (ih (number / 10) (by omega))

theorem digitsOnto_eq_append (base : Nat) (two_le : 2 ≤ base) (number : Nat) (tail : List Char) :
    digitsOnto base two_le number tail = digitsOnto base two_le number [] ++ tail := by
  induction number using Nat.strongRecOn generalizing tail with
  | ind number ih =>
      rw [digitsOnto.eq_def base two_le number tail, digitsOnto.eq_def base two_le number []]
      split
      · rfl
      · have smaller : number / base < number := Nat.div_lt_self (by omega) (by omega)
        rw [ih _ smaller (hexDigit (number % base) :: tail), ih _ smaller [hexDigit (number % base)]]
        simp

theorem decimal_of_lt {number : Nat} (small : number < 10) :
    decimal number = [hexDigit number] := by
  rw [decimal, digitsOnto]
  simp [small]

theorem decimal_of_le {number : Nat} (large : 10 ≤ number) :
    decimal number = decimal (number / 10) ++ [hexDigit (number % 10)] := by
  rw [decimal, digitsOnto]
  simp only [Nat.not_lt.mpr large, dite_false]
  exact digitsOnto_eq_append 10 (by decide) (number / 10) [hexDigit (number % 10)]

theorem length_decimal_le {number digits : Nat} (some : digits ≠ 0) (small : number < 10 ^ digits) :
    (decimal number).length ≤ digits := by
  induction number using decimal_induction generalizing digits with
  | digit number single =>
      rw [decimal_of_lt single, List.length_singleton]
      omega
  | more number large ih =>
      rcases Nat.exists_eq_succ_of_ne_zero some with ⟨fewer, rfl⟩
      have several : fewer ≠ 0 := by
        rintro rfl
        omega
      have tenth : number / 10 < 10 ^ fewer := by
        rw [Nat.div_lt_iff_lt_mul (by decide), ← pow_succ]
        exact small
      rw [decimal_of_le large, List.length_append, List.length_singleton]
      have := ih several tenth
      omega

theorem isPlainDigit_hexDigit : ∀ value, value < 10 → isPlainDigit (hexDigit value) = true := by
  decide

theorem toNat_hexDigit : ∀ value, value < 10 → (hexDigit value).toNat - 0x30 = value := by
  decide

theorem hexDigit_eq_zero : ∀ value, value < 10 → hexDigit value = '0' → value = 0 := by
  decide

theorem decimal_ne_nil (number : Nat) : decimal number ≠ [] := by
  rcases Nat.lt_or_ge number 10 with small | large
  · simp [decimal_of_lt small]
  · simp [decimal_of_le large]

theorem isPlainDigit_of_mem_decimal (number : Nat) :
    ∀ character ∈ decimal number, isPlainDigit character = true := by
  induction number using decimal_induction with
  | digit number small =>
      simpa [decimal_of_lt small] using isPlainDigit_hexDigit number small
  | more number large ih =>
      intro character mem
      rw [decimal_of_le large, List.mem_append, List.mem_singleton] at mem
      rcases mem with earlier | rfl
      · exact ih character earlier
      · exact isPlainDigit_hexDigit _ (by omega)

theorem eq_zero_of_decimal_eq_cons {number : Nat} {rest : List Char}
    (leading : decimal number = '0' :: rest) : number = 0 := by
  induction number using decimal_induction generalizing rest with
  | digit number small =>
      rw [decimal_of_lt small, List.cons_eq_cons] at leading
      exact hexDigit_eq_zero number small leading.1
  | more number large ih =>
      rw [decimal_of_le large] at leading
      rcases List.append_eq_cons_iff.mp leading with ⟨empty, _⟩ | ⟨more, head, _⟩
      · exact absurd empty (decimal_ne_nil _)
      · have := ih head
        omega

theorem plainNumber_decimal (number : Nat) : plainNumber (decimal number) = number := by
  induction number using decimal_induction with
  | digit number small =>
      simpa [decimal_of_lt small, plainNumber] using toNat_hexDigit number small
  | more number large ih =>
      have last := toNat_hexDigit (number % 10) (by omega)
      simp only [plainNumber] at ih
      simp only [decimal_of_le large, plainNumber, List.foldl_append, List.foldl_cons,
        List.foldl_nil, ih, last]
      omega

theorem digitValue?_of_isPlainDigit {character : Char} (plain : isPlainDigit character = true) :
    digitValue? character = some (character.toNat - 0x30) := by
  simp only [isPlainDigit, Bool.and_eq_true, decide_eq_true_eq, Char.le_def,
    UInt32.le_iff_toNat_le] at plain
  have low : 0x30 ≤ character.toNat := plain.1
  have high : character.toNat ≤ 0x39 := plain.2
  have ascii : character.toNat < 0x80 := by omega
  simp [digitValue?, ascii, low, high]

theorem isDigit_of_isPlainDigit {character : Char} (plain : isPlainDigit character = true) :
    isDigit character = true := by
  rw [isDigit, digitValue?_of_isPlainDigit plain]
  rfl

theorem digitRun_of_isPlainDigit {digits : List Char}
    (plain : ∀ character ∈ digits, isPlainDigit character = true) :
    digitRun digits = digits.map fun digit => digit.toNat - 0x30 := by
  induction digits with
  | nil => rfl
  | cons first rest ih =>
      rw [List.forall_mem_cons] at plain
      simp [digitRun, digitValue?_of_isPlainDigit plain.1, ih plain.2]

theorem numberOfDigits_digitRun_decimal (number : Nat) :
    numberOfDigits (digitRun (decimal number)) = number := by
  rw [digitRun_of_isPlainDigit (isPlainDigit_of_mem_decimal number), numberOfDigits,
    numberInBase, List.foldl_map]
  exact plainNumber_decimal number

/-- A digit of any script is no blank. -/
theorem isBlank_of_isDigit {character : Char} (digit : isDigit character = true) :
    isBlank character = false := by
  -- The blanks are few, so they are looked at one by one.
  have noDigit : ∀ code ∈ [0x09, 0x0A, 0x0B, 0x0C, 0x0D, 0x1C, 0x1D, 0x1E, 0x1F, 0x20, 0x85, 0xA0,
      0x1680, 0x2000, 0x2001, 0x2002, 0x2003, 0x2004, 0x2005, 0x2006, 0x2007, 0x2008, 0x2009,
      0x200A, 0x2028, 0x2029, 0x202F, 0x205F, 0x3000], isDigit (Char.ofNat code) = false := by
    decide +kernel
  by_contra blank
  have listed := noDigit character.toNat (by
    simp only [isBlank, Bool.not_eq_false, Bool.or_eq_true, Bool.and_eq_true, decide_eq_true_eq,
      beq_iff_eq] at blank
    simp only [List.mem_cons, List.not_mem_nil, or_false]
    omega)
  rw [Char.ofNat_toNat, digit] at listed
  cases listed

theorem isBlank_of_isPlainDigit {character : Char} (plain : isPlainDigit character = true) :
    isBlank character = false :=
  isBlank_of_isDigit (isDigit_of_isPlainDigit plain)

theorem isTidy_of_isPlainDigit {digits : List Char} (filled : digits ≠ [])
    (plain : ∀ character ∈ digits, isPlainDigit character = true) : IsTidy digits := by
  refine ⟨filled, trim_eq_self_iff.mpr ⟨?_, ?_⟩⟩
  · intro character rest split
    exact isBlank_of_isPlainDigit (plain character (by simp [split]))
  · intro rest character split
    exact isBlank_of_isPlainDigit (plain character (by simp [split]))

theorem isTidy_decimal (number : Nat) : IsTidy (decimal number) :=
  isTidy_of_isPlainDigit (decimal_ne_nil number) (isPlainDigit_of_mem_decimal number)

end Rulebook.Text
