import Mathlib
import Rulebook.Proofs.Text.Utf8
import Rulebook.Text.Blank
import Rulebook.Text.Percent

/-!
# Percent encoding undone

Decoding an encoded text gives the text back: what stands for itself is its own code, every escape
stands for one byte, and the bytes are those of the text. A form has plus signs for spaces, and they
are told apart because a plus sign of the text itself is escaped.
-/

namespace Rulebook.Text

theorem hexValue?_escapeDigit : ∀ value, value < 16 →
    hexValue? (escapeDigit value) = some value := by
  decide

theorem percentDecodeBytes_cons {character : Char} (plain : character ≠ '%') (rest : List Char) :
    percentDecodeBytes (character :: rest) = utf8Char character ++ percentDecodeBytes rest := by
  rw [percentDecodeBytes]
  rintro a b more rfl
  exact absurd rfl plain

theorem percentDecodeBytes_escapeByte (byte : UInt8) (rest : List Char) :
    percentDecodeBytes (escapeByte byte ++ rest) = byte :: percentDecodeBytes rest := by
  have small := byte.toNat_lt
  have high := hexValue?_escapeDigit (byte.toNat / 16) (by omega)
  have low := hexValue?_escapeDigit (byte.toNat % 16) (by omega)
  have whole : UInt8.ofNat (16 * (byte.toNat / 16) + byte.toNat % 16) = byte := by
    rw [Nat.div_add_mod, UInt8.ofNat_toNat]
  simp only [escapeByte, List.cons_append, List.nil_append, percentDecodeBytes, high, low, whole]

theorem percentDecodeBytes_escapes (bytes : List UInt8) (rest : List Char) :
    percentDecodeBytes (bytes.flatMap escapeByte ++ rest) = bytes ++ percentDecodeBytes rest := by
  induction bytes with
  | nil => rfl
  | cons byte more ih =>
      rw [List.flatMap_cons, List.append_assoc, percentDecodeBytes_escapeByte, ih,
        List.cons_append]

/-- Decoding undoes escapes whichever characters are escaped, as long as the percent sign is. -/
theorem percentDecodeBytes_escapeUnless {isSafe : Char → Bool} (escaped : isSafe '%' = false)
    (text : List Char) : percentDecodeBytes (text.flatMap (escapeUnless isSafe)) = utf8 text := by
  induction text with
  | nil => rfl
  | cons first rest ih =>
      rw [List.flatMap_cons, utf8_cons, ← ih, escapeUnless]
      split
      · next safe =>
        refine percentDecodeBytes_cons ?_ _
        rintro rfl
        rw [escaped] at safe
        cases safe
      · exact percentDecodeBytes_escapes _ _

theorem percentDecode_percentEncode (text : List Char) :
    percentDecode (percentEncode text) = text := by
  rw [percentDecode, percentEncode, percentDecodeBytes_escapeUnless (by decide), utf8Lossy_utf8]

theorem lt_toNat_of_isUnreserved {character : Char}
    (unreserved : isUnreserved character = true) :
    0x20 < character.toNat ∧ character.toNat < 0x7F := by
  simp only [isUnreserved, Char.isAlphanum, Char.isAlpha, Char.isUpper, Char.isLower,
    Char.isDigit, Bool.or_eq_true, Bool.and_eq_true, decide_eq_true_eq, beq_iff_eq,
    UInt32.le_iff_toNat_le, ge_iff_le] at unreserved
  rcases unreserved with (((unreserved | rfl) | rfl) | rfl) | rfl
  · simp at unreserved
    omega
  all_goals decide

/-- A letter or digit of ASCII, or one of four marks. -/
def IsPlainCharacter (character : Char) : Prop :=
  ('A' ≤ character ∧ character ≤ 'Z') ∨ ('a' ≤ character ∧ character ≤ 'z') ∨
    ('0' ≤ character ∧ character ≤ '9') ∨ character ∈ ['_', '.', '-', '~']

/-- A hexadecimal digit, in upper case if it is a letter. -/
def IsCapitalHexDigit (character : Char) : Prop :=
  ('0' ≤ character ∧ character ≤ '9') ∨ ('A' ≤ character ∧ character ≤ 'F')

instance : DecidablePred IsCapitalHexDigit :=
  fun _ => inferInstanceAs (Decidable (_ ∨ _))

/-- A text of plain characters and of percent signs with two hexadecimal digits each. -/
inductive IsEscaped : List Char → Prop
  | nil : IsEscaped []
  | plain {character : Char} {rest : List Char} (isPlain : IsPlainCharacter character)
      (later : IsEscaped rest) : IsEscaped (character :: rest)
  | escape {high low : Char} {rest : List Char} (highDigit : IsCapitalHexDigit high)
      (lowDigit : IsCapitalHexDigit low) (later : IsEscaped rest) :
      IsEscaped ('%' :: high :: low :: rest)

theorem IsEscaped.append {front rest : List Char} (escaped : IsEscaped front)
    (later : IsEscaped rest) : IsEscaped (front ++ rest) := by
  induction escaped with
  | nil => exact later
  | plain unreserved _ ih => exact .plain unreserved ih
  | escape highDigit lowDigit _ ih => exact .escape highDigit lowDigit ih

theorem isUnreserved_escapeDigit : ∀ value, value < 16 → isUnreserved (escapeDigit value) = true := by
  decide

theorem of_mem_escapeUnless {source character : Char}
    (mem : character ∈ escapeUnless isUnreserved source) :
    isUnreserved character = true ∨ character = '%' := by
  rw [escapeUnless] at mem
  split at mem
  · next unreserved =>
    rw [List.mem_singleton] at mem
    exact Or.inl (mem ▸ unreserved)
  · rcases List.mem_flatMap.mp mem with ⟨byte, _, digit⟩
    have small := byte.toNat_lt
    simp only [escapeByte, List.mem_cons, List.not_mem_nil, or_false] at digit
    rcases digit with rfl | rfl | rfl
    · exact Or.inr rfl
    · exact Or.inl (isUnreserved_escapeDigit _ (by omega))
    · exact Or.inl (isUnreserved_escapeDigit _ (by omega))

theorem of_mem_percentEncode {text : List Char} {character : Char}
    (mem : character ∈ percentEncode text) : isUnreserved character = true ∨ character = '%' := by
  rcases List.mem_flatMap.mp mem with ⟨source, _, escaped⟩
  exact of_mem_escapeUnless escaped

/-- No separator of an address stands in an encoded text, and no blank. -/
theorem not_separator_of_mem_percentEncode {text : List Char} {character : Char}
    (mem : character ∈ percentEncode text) :
    character ≠ '/' ∧ character ≠ '?' ∧ character ≠ '#' ∧ isBlank character = false := by
  rcases of_mem_percentEncode mem with unreserved | rfl
  · have range := lt_toNat_of_isUnreserved unreserved
    have other : ∀ separator ∈ ['/', '?', '#'], character ≠ separator := by
      rintro separator listed rfl
      simp only [List.mem_cons, List.not_mem_nil, or_false] at listed
      rcases listed with rfl | rfl | rfl <;> exact absurd unreserved (by decide)
    simp only [List.forall_mem_cons] at other
    refine ⟨other.1, other.2.1, other.2.2.1, ?_⟩
    simp only [isBlank]
    grind
  · decide

theorem of_mem_formEncode {text : List Char} {character : Char}
    (mem : character ∈ formEncode text) :
    isUnreserved character = true ∨ character = '%' ∨ character = '+' := by
  rcases List.mem_flatMap.mp mem with ⟨source, _, encoded⟩
  split at encoded
  · rw [List.mem_singleton] at encoded
    exact Or.inr (Or.inr encoded)
  · exact (of_mem_escapeUnless encoded).imp_right Or.inl

theorem not_mem_formEncode {separator : Char} (reserved : isUnreserved separator = false)
    (notPercent : separator ≠ '%') (notPlus : separator ≠ '+') (text : List Char) :
    separator ∉ formEncode text := by
  intro mem
  rcases of_mem_formEncode mem with unreserved | percent | plus
  · rw [reserved] at unreserved
    cases unreserved
  · exact notPercent percent
  · exact notPlus plus

/-! ## Forms -/

/-- Before its escapes are decoded, a form has spaces where it had plus signs, and no other plus
signs. -/
theorem map_formEncode (text : List Char) :
    ((formEncode text).map fun character => if character = '+' then ' ' else character) =
      text.flatMap (escapeUnless fun character => isUnreserved character || character == ' ') := by
  rw [formEncode, List.map_flatMap]
  apply List.flatMap_congr
  intro source _
  by_cases space : source = ' '
  · subst space
    rfl
  · have same : escapeUnless (fun character => isUnreserved character || character == ' ') source =
        escapeUnless isUnreserved source := by
      simp [escapeUnless, space]
    rw [if_neg space, same]
    apply List.map_congr_left .. |>.trans (List.map_id _)
    intro character mem
    refine if_neg ?_
    rintro rfl
    rcases of_mem_escapeUnless mem with unreserved | percent
    · exact absurd unreserved (by decide)
    · exact absurd percent (by decide)

theorem formDecode_formEncode (text : List Char) : formDecode (formEncode text) = text := by
  rw [formDecode, map_formEncode, percentDecode, percentDecodeBytes_escapeUnless (by decide),
    utf8Lossy_utf8]

end Rulebook.Text
