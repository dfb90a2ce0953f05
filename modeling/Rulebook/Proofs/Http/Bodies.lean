import Mathlib
import Rulebook.Http.Message
import Rulebook.Proofs.Json.RoundTrip
import Rulebook.Proofs.Text.Utf8

/-!
# Reading bodies

A body is JSON text in UTF-8. Whoever reads it guesses the encoding from the marks and the zero
bytes in front, and the guess is right for every value: its text begins with a character in ASCII,
and no character of it is zero, because control characters are escaped. So a plain value is read
back from its body.
-/

namespace Rulebook

namespace Text

theorem eq_zero_of_mem_utf8Char {character : Char} (mem : 0 ∈ utf8Char character) :
    character = '\x00' := by
  have notZero {value : Nat} (positive : 0 < value) (small : value < 0x100) :
      (0 : UInt8) ≠ UInt8.ofNat value := by
    intro same
    have values := congrArg UInt8.toNat same
    rw [toNat_byte small] at values
    exact positive.ne values
  have valid := isValidChar_toNat character
  simp only [utf8Char] at mem
  split_ifs at mem with ascii two three
  · by_contra other
    refine notZero ?_ (by omega) (List.mem_singleton.mp mem)
    rw [Nat.pos_iff_ne_zero]
    intro zero
    exact other (Char.toNat_inj.mp zero)
  all_goals
    simp only [List.mem_cons, List.not_mem_nil, or_false] at mem
  · rcases mem with same | same
    all_goals exact absurd same (notZero (by omega) (by omega))
  · rcases mem with same | same | same
    all_goals exact absurd same (notZero (by omega) (by omega))
  · rcases mem with same | same | same | same
    all_goals exact absurd same (notZero (by omega) (by omega))

theorem zero_not_mem_utf8 {text : List Char} (absent : '\x00' ∉ text) : 0 ∉ utf8 text := by
  intro mem
  rcases List.mem_flatMap.mp mem with ⟨character, inText, inBytes⟩
  exact absent (eq_zero_of_mem_utf8Char inBytes ▸ inText)

theorem decode?_utf8 (text : List Char) : Charset.utf8.decode? (utf8 text) = some text := by
  have whole (characters : List Char) : (characters.map some).mapM id = some characters := by
    induction characters with
    | nil => rfl
    | cons character rest ih => simp [List.mapM_cons, ih]
  have pieces : piecesOfUtf8 (utf8 text) = text.map some := by
    rw [piecesOfUtf8, utf8Pieces_utf8, List.map_map]
    rfl
  rw [Charset.decode?, Charset.run, pieces]
  exact whole text

/-- Bytes that begin in ASCII and hold no zero are taken for UTF-8. -/
theorem detect_of_ascii {first : UInt8} {rest : List UInt8} (ascii : first < 0x80)
    (noZero : 0 ∉ first :: rest) : Charset.detect (first :: rest) = .utf8 := by
  have noMark : ∀ lead ∈ [0x00, 0xFF, 0xFE, 0xEF], (lead == first) = false := by
    intro lead mem
    rw [beq_eq_false_iff_ne]
    rintro rfl
    simp only [List.mem_cons, List.not_mem_nil, or_false] at mem
    rcases mem with rfl | rfl | rfl | rfl
    · exact noZero List.mem_cons_self
    all_goals exact absurd ascii (by decide)
  simp only [List.forall_mem_cons] at noMark
  have absent (front : List UInt8) {lead : UInt8} (notFirst : (lead == first) = false) :
      ((lead :: front).isPrefixOf (first :: rest)) = false := by
    rw [List.isPrefixOf, notFirst, Bool.false_and]
  rw [Charset.detect.eq_def, absent _ noMark.1, absent _ noMark.2.1, absent _ noMark.2.2.1,
    absent _ noMark.2.1, absent _ noMark.2.2.2.1]
  rcases rest with _ | ⟨second, _ | ⟨third, _ | ⟨fourth, more⟩⟩⟩
  · rfl
  · simp only [List.mem_cons, not_or] at noZero
    simp [Ne.symm noZero.1, Ne.symm noZero.2.1]
  · rfl
  · simp only [List.mem_cons, not_or] at noZero
    simp [Ne.symm noZero.1, Ne.symm noZero.2.1]

end Text

namespace Json

theorem compact_isReadable : compact.IsReadable :=
  ⟨⟨[], rfl, by simp⟩, ⟨[], rfl, by simp⟩, rfl⟩

/-! ## No zero characters -/

theorem hexDigit_ne_zero : ∀ value, value < 16 → Text.hexDigit value ≠ '\x00' := by
  decide

theorem zero_not_mem_literalChar (character : Char) : '\x00' ∉ literalChar false character := by
  unfold literalChar
  iterate 7
    split
    · simp
  split
  · next control =>
    have small : character.toNat < 0x100 := by omega
    have first : character.toNat < 0x10000 := by omega
    have high := hexDigit_ne_zero (character.toNat / 16) (by omega)
    have low := hexDigit_ne_zero (character.toNat % 16) (by omega)
    simp [escapeUnits, first, unitEscape, hexadecimal_four_of_lt small, high.symm, low.symm]
  · next visible =>
    rw [Bool.false_and, if_neg (by decide), List.mem_singleton]
    rintro rfl
    exact visible (by decide)

theorem zero_not_mem_literal (text : List Char) : '\x00' ∉ literal false text := by
  rw [literal, List.cons_append, List.mem_cons, List.mem_append, List.mem_flatMap]
  rintro (quote | ⟨character, _, mem⟩ | quote)
  · cases quote
  · exact zero_not_mem_literalChar character mem
  · exact absurd quote (by decide)

theorem zero_not_mem_signedDecimal (value : Int) : '\x00' ∉ Text.signedDecimal value := by
  intro mem
  have digit (number : Nat) : '\x00' ∉ Text.decimal number := by
    intro inDigits
    exact absurd (Text.isPlainDigit_of_mem_decimal number _ inDigits) (by decide)
  cases value with
  | ofNat number => exact digit _ mem
  | negSucc number =>
      rcases List.mem_cons.mp mem with sign | inDigits
      · cases sign
      · exact digit _ inDigits

variable {items : List Json} {fields : Fields}

theorem zero_not_mem_writeItems (each : ∀ item ∈ items, ∀ level, '\x00' ∉ write compact level item)
    (level : Nat) : '\x00' ∉ writeItems compact level items := by
  induction items with
  | nil => simp [writeItems]
  | cons item rest ih =>
      rw [List.forall_mem_cons] at each
      simpa [writeItems, compact, lineBreak] using ⟨each.1 level, ih each.2⟩

theorem zero_not_mem_writeFields
    (each : ∀ field ∈ fields, ∀ level, '\x00' ∉ write compact level field.2) (level : Nat) :
    '\x00' ∉ writeFields compact level fields := by
  induction fields with
  | nil => simp [writeFields]
  | cons field rest ih =>
      rw [List.forall_mem_cons] at each
      simpa [writeFields, compact, lineBreak] using
        ⟨zero_not_mem_literal _, each.1 level, ih each.2⟩

theorem IsPlain.zero_not_mem_write {value : Json} (plain : value.IsPlain) (level : Nat) :
    '\x00' ∉ write compact level value := by
  induction plain generalizing level with
  | null => simp [write]
  | bool value => cases value <;> simp [write]
  | @int value _ => exact zero_not_mem_signedDecimal value
  | str text => exact zero_not_mem_literal text.toList
  | @arr items each ih =>
      cases items with
      | nil => simp [write]
      | cons item rest =>
          rw [List.forall_mem_cons] at ih
          simpa [write, compact, lineBreak] using ⟨ih.1 _, zero_not_mem_writeItems ih.2 _⟩
  | @obj fields _ each ih =>
      cases fields with
      | nil => simp [write]
      | cons field rest =>
          rw [List.forall_mem_cons] at ih
          simpa [write, compact, lineBreak] using
            ⟨zero_not_mem_literal _, ih.1 _, zero_not_mem_writeFields ih.2 _⟩

/-! ## Values in bodies -/

theorem BeginsValue.ascii {character : Char} (begins : BeginsValue character) :
    character.toNat < 0x80 := by
  rcases begins with (digit | listed) | listed
  · simp only [isPlainDigit, Bool.and_eq_true, decide_eq_true_eq, Char.le_def,
      UInt32.le_iff_toNat_le] at digit
    exact digit.2.trans_lt (by decide)
  · simp only [List.mem_cons, List.not_mem_nil, or_false] at listed
    rcases listed with rfl | rfl | rfl <;> decide
  · simp only [List.mem_cons, List.not_mem_nil, or_false] at listed
    rcases listed with rfl | rfl | rfl | rfl | rfl | rfl <;> decide

end Json

open Text in
/-- The compact text of a value is read as this value. -/
theorem jsonOf?_utf8_print {value : Json} (plain : value.IsPlain) :
    Response.jsonOf? (utf8 (value.print Json.compact)) = some value := by
  have noZero := zero_not_mem_utf8 (plain.zero_not_mem_write 0)
  rcases Json.write_head Json.compact value 0 with ⟨first, rest, split, begins⟩
  have utf8Body : Charset.detect (utf8 (value.print Json.compact)) = .utf8 := by
    have ascii : first.toNat < 0x80 := begins.ascii
    rw [Json.print, split, utf8_cons, utf8Char, if_pos ascii]
    rw [split, utf8_cons, utf8Char, if_pos ascii] at noZero
    refine detect_of_ascii ?_ noZero
    rw [UInt8.lt_iff_toNat_lt, toNat_byte (by omega)]
    exact ascii
  rw [Response.jsonOf?, utf8Body, decode?_utf8]
  simp only
  rw [(plain.reads Json.compact_isReadable).parse_print]
  rfl

theorem bodyOf_of_ne_null {value : Json} (given : value ≠ .null) :
    bodyOf value = Text.utf8 (value.print Json.compact) := by
  rw [bodyOf]
  exact given

/-- The body of a value is read as this value. -/
theorem jsonOf?_bodyOf {value : Json} (plain : value.IsPlain) (given : value ≠ .null) :
    Response.jsonOf? (bodyOf value) = some value := by
  rw [bodyOf_of_ne_null given, jsonOf?_utf8_print plain]

end Rulebook
