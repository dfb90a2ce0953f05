import Mathlib
import Rulebook.Json.Printer
import Rulebook.Json.Scanner

/-!
# Text literals

A text literal is read back as the text that was written. The reader works on code units, so the
proof has two halves: the literal of a text leaves the code of each of its characters, and these
codes, none of which is half a surrogate pair, are the characters again.
-/

namespace Rulebook.Json

theorem hexValue?_hexDigit : ∀ value, value < 16 →
    Text.hexValue? (Text.hexDigit value) = some value := by
  decide

theorem hexadecimal_four_of_lt {code : Nat} (small : code < 0x100) :
    Text.hexadecimal 4 code =
      ['0', '0', Text.hexDigit (code / 16), Text.hexDigit (code % 16)] := by
  rw [Text.hexadecimal, Text.digitsOnto]
  split
  · next oneDigit =>
    simp [Text.padLeft, Nat.div_eq_of_lt oneDigit, Nat.mod_eq_of_lt oneDigit, Text.hexDigit]
  · next twoDigits =>
    have leading : code / 16 < 16 := by omega
    rw [Text.digitsOnto]
    simp [leading, Text.padLeft]

theorem unitOfHex?_hexadecimal_four {code : Nat} (small : code < 0x100) :
    unitOfHex? '0' '0' (Text.hexDigit (code / 16)) (Text.hexDigit (code % 16)) = some code := by
  have zero : Text.hexValue? '0' = some 0 := by decide
  have high := hexValue?_hexDigit (code / 16) (by omega)
  have low := hexValue?_hexDigit (code % 16) (by omega)
  simp only [unitOfHex?, zero, high, low, Option.some.injEq]
  omega

theorem scanUnits_plain {opening : List Char} {read : List Nat} {character : Char}
    {rest : List Char} (notQuote : character ≠ '"') (notEscape : character ≠ '\\')
    (visible : ¬character.toNat < 0x20) :
    scanUnits opening read (character :: rest) =
      scanUnits opening (character.toNat :: read) rest := by
  rw [scanUnits.eq_def]
  split <;> simp_all

theorem scanUnits_literalChar (opening : List Char) (read : List Nat) (character next : Char)
    (rest : List Char) :
    scanUnits opening read (literalChar false character ++ next :: rest) =
      scanUnits opening (character.toNat :: read) (next :: rest) := by
  unfold literalChar
  split
  · subst character; simp [scanUnits, simpleEscape?]
  split
  · subst character; simp [scanUnits, simpleEscape?]
  split
  · subst character; simp [scanUnits, simpleEscape?]
  split
  · subst character; simp [scanUnits, simpleEscape?]
  split
  · subst character; simp [scanUnits, simpleEscape?]
  split
  · subst character; simp [scanUnits, simpleEscape?]
  split
  · subst character; simp [scanUnits, simpleEscape?]
  split
  · next control =>
    have small : character.toNat < 0x100 := by omega
    have first : character.toNat < 0x10000 := by omega
    simp [escapeUnits, first, unitEscape, hexadecimal_four_of_lt small, scanUnits,
      unitOfHex?_hexadecimal_four small]
  · next notQuote notEscape _ _ _ _ _ visible =>
    simpa using scanUnits_plain notQuote notEscape visible

theorem scanUnits_literal (opening : List Char) (read : List Nat) (text rest : List Char) :
    scanUnits opening read (text.flatMap (literalChar false) ++ '"' :: rest) =
      .ok (read.reverse ++ text.map Char.toNat, rest) := by
  induction text generalizing read with
  | nil => simp [scanUnits]
  | cons first later ih =>
      -- The closing quote or a further character follows, as the reader of an escape demands.
      obtain ⟨next, more, follows⟩ : ∃ next more,
          later.flatMap (literalChar false) ++ '"' :: rest = next :: more :=
        List.exists_cons_of_ne_nil (by simp)
      rw [List.flatMap_cons, List.append_assoc, follows, scanUnits_literalChar, ← follows, ih]
      simp

theorem charOfUnit_toNat (character : Char) : charOfUnit character.toNat = character := by
  rcases character.valid with low | high
  · have : character.toNat < 0xD800 := low
    simp only [charOfUnit, isHighSurrogate, isLowSurrogate, Char.ofNat_toNat]
    grind
  · have : 0xDFFF < character.toNat := high.1
    simp only [charOfUnit, isHighSurrogate, isLowSurrogate, Char.ofNat_toNat]
    grind

theorem isHighSurrogate_toNat (character : Char) : isHighSurrogate character.toNat = false := by
  rcases character.valid with low | high
  · have : character.toNat < 0xD800 := low
    simp only [isHighSurrogate]
    grind
  · have : 0xDFFF < character.toNat := high.1
    simp only [isHighSurrogate]
    grind

theorem charsOfUnits_map_toNat (text : List Char) : charsOfUnits (text.map Char.toNat) = text := by
  induction text with
  | nil => rfl
  | cons first rest ih =>
      cases rest with
      | nil => simp [charsOfUnits, charOfUnit_toNat]
      | cons second more =>
          simp only [List.map_cons] at ih ⊢
          simp [charsOfUnits, isHighSurrogate_toNat, charOfUnit_toNat, ih]

/-- A literal is read back as its text. -/
theorem scanText_literal (opening text rest : List Char) :
    scanText opening (text.flatMap (literalChar false) ++ '"' :: rest) = .ok (text, rest) := by
  simp [scanText, scanUnits_literal, charsOfUnits_map_toNat]

end Rulebook.Json
