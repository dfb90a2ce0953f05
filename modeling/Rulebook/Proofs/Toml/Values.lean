import Mathlib
import Rulebook.Proofs.Number.Proper
import Rulebook.Proofs.Toml.Literals
import Rulebook.Proofs.Toml.Numbers
import Rulebook.Toml.Reader

/-!
# Written values in TOML

The text of a value denotes the value: wherever it stands at the end of a line, it is read as the
value. Such a text begins with no space, because spaces before a value are passed over, and has no
carriage return in it, because line ends are unified before anything is read.
-/

namespace Rulebook.Toml

/-- The text is that of a value at the end of a line. -/
structure Denotes (text : List Char) (value : Toml) : Prop where
  /-- Passing over spaces leaves the text. -/
  visible : ∀ first more, text = first :: more → isSpace first = false
  oneLine : '\r' ∉ text
  read : ∀ bound rest, readValue (bound + 1) (text ++ '\n' :: rest) = .ok (value, '\n' :: rest)

/-! ## Texts -/

theorem hexDigit_ne_return : ∀ value, value < 16 → Text.hexDigit value ≠ '\r' := by
  decide

theorem return_not_mem_writeChar (character : Char) : '\r' ∉ writeChar character := by
  unfold writeChar
  split_ifs with quote backslash back line feed carriage tab control
  · decide
  · decide
  · decide
  · decide
  · decide
  · decide
  · decide
  · have small : character.toNat < 0x100 := by omega
    rw [Json.hexadecimal_four_of_lt small]
    have high := hexDigit_ne_return (character.toNat / 16) (by omega)
    have low := hexDigit_ne_return (character.toNat % 16) (by omega)
    simp [high.symm, low.symm]
  · simpa [eq_comm] using carriage

theorem denotes_text (text : String) : Denotes (writeText text.toList) (str text) where
  visible := by
    rintro first more same
    rw [← (List.cons.inj same).1]
    rfl
  oneLine := by
    simp only [writeText, List.mem_append, List.mem_cons, List.mem_flatMap, List.not_mem_nil,
      or_false, not_or, not_exists, not_and]
    exact ⟨⟨by decide, fun character _ => return_not_mem_writeChar character⟩, by decide⟩
  read := by
    intro bound rest
    have written := @String.ofList_toList text
    simp only [readValue, scanText?_writeText, written]

/-! ## Truth values and numbers -/

theorem readValue_of_scanScalar {first : Char}
    (scalar : first ≠ '"' ∧ first ≠ '\'' ∧ first ≠ '[' ∧ first ≠ '\x7b') (bound : Nat)
    (more : List Char) : readValue (bound + 1) (first :: more) = scanScalar (first :: more) := by
  have noText : scanText? (first :: more) = none := by
    rw [scanText?.eq_def]
    split <;> simp_all
  rw [readValue, noText]
  · exact fun _ same => scalar.2.2.1 (List.cons.inj same).1
  · exact fun _ same => scalar.2.2.2 (List.cons.inj same).1

theorem denotes_bool (value : Bool) : Denotes (writeBool value) (bool value) where
  visible := by
    cases value <;> (rintro first more same; rw [← (List.cons.inj same).1]; rfl)
  oneLine := by
    cases value <;> decide
  read := by
    intro bound rest
    cases value
    · exact readValue_of_scanScalar (by decide) bound _
    · exact readValue_of_scanScalar (by decide) bound _

theorem denotes_real {number : Binary64} (finite : number.IsFiniteNumber) :
    Denotes number.text (real number) := by
  rcases Json.exists_isNumeral_text finite with ⟨negative, magnitude, _, _, numeral, split, _⟩
  have letters : ∀ character ∈ number.text,
      Json.isPlainDigit character = true ∨ character ∈ ['.', 'e', '+', '-'] := by
    intro character mem
    rw [split, List.mem_append] at mem
    rcases mem with inSign | inMagnitude
    · cases negative with
      | true =>
          rw [List.mem_singleton.mp inSign]
          decide
      | false => cases inSign
    · exact numeral.isPlainDigit_or_mem character inMagnitude
  have differs (other : Char) {character : Char} (mem : character ∈ number.text)
      (notDigit : Json.isPlainDigit other = false) (notSign : other ∉ ['.', 'e', '+', '-']) :
      character ≠ other := by
    rintro rfl
    rcases letters character mem with digit | sign
    · rw [digit] at notDigit
      cases notDigit
    · exact notSign sign
  refine ⟨fun first more same => ?_, fun mem => ?_, fun bound rest => ?_⟩
  · have mem : first ∈ number.text := same ▸ List.mem_cons_self
    have space := differs ' ' mem (by decide) (by decide)
    have tab := differs '\t' mem (by decide) (by decide)
    simp [isSpace, space, tab]
  · exact differs '\r' mem (by decide) (by decide) rfl
  · rw [← scanScalar_text finite rest]
    have filled : number.text ≠ [] := by
      rcases numeral.head with ⟨first, rest, rfl, _⟩
      rw [split]
      simp
    rcases List.exists_cons_of_ne_nil filled with ⟨first, more, same⟩
    have mem : first ∈ number.text := same ▸ List.mem_cons_self
    rw [same]
    refine readValue_of_scanScalar ⟨?_, ?_, ?_, ?_⟩ bound _ <;>
      exact differs _ mem (by decide) (by decide)

theorem denotes_infinity (negative : Bool) :
    Denotes (Binary64.infinity negative).text (real (.infinity negative)) where
  visible := by
    cases negative <;> (rintro first more same; rw [← (List.cons.inj same).1]; rfl)
  oneLine := by
    cases negative <;> decide
  read := by
    intro bound rest
    cases negative
    · exact readValue_of_scanScalar (by decide) bound _
    · exact readValue_of_scanScalar (by decide) bound _

theorem denotes_undefined : Denotes Binary64.undefined.text (real .undefined) where
  visible := by
    rintro first more same
    rw [← (List.cons.inj same).1]
    rfl
  oneLine := by decide
  read := fun bound _ => readValue_of_scanScalar (by decide) bound _

theorem denotes_of_isProper {number : Binary64} (isProper : number.IsProper) :
    Denotes number.text (real number) := by
  cases number with
  | finite => exact denotes_real (isProper rfl)
  | infinity negative => exact denotes_infinity negative
  | undefined => exact denotes_undefined

end Rulebook.Toml
