import Mathlib
import Rulebook.Proofs.Json.Literals
import Rulebook.Toml.Scanner
import Rulebook.Toml.Writer

/-!
# Text literals in TOML

A text is read back from its literal. Each character is written as itself or as an escape of its
own, none of which has an unescaped quote in it, so the reader takes the pieces one by one up to
the closing quotes. An empty literal at the end of a line does not open a text of several lines.
-/

namespace Rulebook.Toml

/-! ## Escapes -/

theorem scanBasic_skip (inLines : Bool) (taken rest : List Char) :
    scanBasic inLines taken.length (taken ++ rest) = scanBasic inLines 0 rest := by
  induction taken with
  | nil => rfl
  | cons first more ih =>
      rw [List.length_cons, List.cons_append, scanBasic]
      exact ih

theorem scanBasic_escape {escape rest piece text left : List Char}
    (scanned : scanEscape false (escape ++ rest) = .ok (piece, escape.length))
    (read : scanBasic false 0 rest = .ok (text, left)) :
    scanBasic false 0 ('\\' :: escape ++ rest) = .ok (piece ++ text, left) := by
  simp [scanBasic, scanned, scanBasic_skip, read, Except.map]

theorem scanBasic_plain {character : Char} {rest text left : List Char}
    (notQuote : character ≠ '"') (notEscape : character ≠ '\\')
    (legal : isIllegal character = false) (read : scanBasic false 0 rest = .ok (text, left)) :
    scanBasic false 0 (character :: rest) = .ok (character :: text, left) := by
  simp [scanBasic, notQuote, notEscape, legal, read, Except.map]

theorem scanEscape_letter {letter character : Char} (rest : List Char)
    (stands : simpleEscape? letter = some character) :
    scanEscape false (letter :: rest) = .ok ([character], 1) := by
  have notCode : letter ≠ 'u' ∧ letter ≠ 'U' := by
    refine ⟨?_, ?_⟩ <;> (rintro rfl; cases stands)
  simp [scanEscape, notCode, stands]

/-- The escape by a code of four digits. -/
theorem scanEscape_code {code : Nat} (small : code < 0x100) (rest : List Char) :
    scanEscape false ('u' :: Text.hexadecimal 4 code ++ rest) =
      .ok ([Char.ofNat code], ('u' :: Text.hexadecimal 4 code).length) := by
  have zero : Text.hexValue? '0' = some 0 := by decide
  have high := Json.hexValue?_hexDigit (code / 16) (by omega)
  have low := Json.hexValue?_hexDigit (code % 16) (by omega)
  have value : Text.numberInBase 16 [0, 0, code / 16, code % 16] = code := by
    simp only [Text.numberInBase, List.foldl_cons, List.foldl_nil]
    omega
  have scalar : code < 0xD800 := by omega
  rw [Json.hexadecimal_four_of_lt small]
  simp [scanEscape, hexEscape, zero, high, low, value, scalar, Except.map]

/-! ## Literals -/

theorem scanBasic_writeChar (character : Char) {rest text left : List Char}
    (read : scanBasic false 0 rest = .ok (text, left)) :
    scanBasic false 0 (writeChar character ++ rest) = .ok (character :: text, left) := by
  have letter (escape : Char) (stands : simpleEscape? escape = some character) :
      scanBasic false 0 (['\\', escape] ++ rest) = .ok (character :: text, left) :=
    @scanBasic_escape [escape] rest [character] text left (scanEscape_letter rest stands) read
  -- in the order in which the characters are told apart when they are written
  unfold writeChar
  split
  · next same => exact letter '"' (congrArg some same.symm)
  split
  · next same => exact letter '\\' (congrArg some same.symm)
  split
  · next same => exact letter 'b' (congrArg some same.symm)
  split
  · next same => exact letter 'n' (congrArg some same.symm)
  split
  · next same => exact letter 'f' (congrArg some same.symm)
  split
  · next same => exact letter 'r' (congrArg some same.symm)
  split
  · next same =>
    subst same
    exact scanBasic_plain (by decide) (by decide) rfl read
  split
  · next control =>
    have small : character.toNat < 0x100 := by omega
    have scanned := scanEscape_code small rest
    rw [Char.ofNat_toNat] at scanned
    exact scanBasic_escape scanned read
  · next notQuote notEscape _ _ _ _ _ visible =>
    refine scanBasic_plain notQuote notEscape ?_ read
    simp [isIllegal]
    omega

theorem scanBasic_literal (text rest : List Char) :
    scanBasic false 0 (text.flatMap writeChar ++ '"' :: rest) = .ok (text, rest) := by
  induction text with
  | nil => rfl
  | cons first more ih =>
      rw [List.flatMap_cons, List.append_assoc]
      exact scanBasic_writeChar first ih

theorem exists_writeChar_eq (character : Char) :
    ∃ first rest, writeChar character = first :: rest ∧ first ≠ '"' := by
  unfold writeChar
  split_ifs <;> simp_all

/-- A literal at the end of a line is read as the text that was written. -/
theorem scanText?_writeText (text rest : List Char) :
    scanText? (writeText text ++ '\n' :: rest) = some (.ok (text, '\n' :: rest)) := by
  have literal := scanBasic_literal text ('\n' :: rest)
  -- behind the opening quotes stand no two further ones, or else the text would go on over lines
  have noLines : ∀ more, text.flatMap writeChar ++ '"' :: '\n' :: rest ≠ '"' :: '"' :: more := by
    intro more same
    cases text with
    | nil => cases same
    | cons first others =>
        rcases exists_writeChar_eq first with ⟨head, tail, split, notQuote⟩
        rw [List.flatMap_cons, split] at same
        exact notQuote (List.cons.inj same).1
  rw [writeText, List.append_assoc, List.cons_append, List.singleton_append, scanText?.eq_def]
  split
  · next same => exact absurd (List.cons.inj same).2 (noLines _)
  · next same => rw [← (List.cons.inj same).2, literal]
  · next same => cases (List.cons.inj same).1
  · next same => cases (List.cons.inj same).1
  · next notOpened _ _ => exact absurd rfl (notOpened _)

end Rulebook.Toml
