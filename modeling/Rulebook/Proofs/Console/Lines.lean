import Mathlib
import Rulebook.Console.Wrap
import Rulebook.Proofs.Text.Items

/-!
# Lines that fit

A line of the visible characters of ASCII takes one cell for each of them. If these are no more than
the width, the line is shown as it is: cutting it into words and joining the words again gives it
back, and nothing is dropped from its end.
-/

namespace Rulebook.Console

/-- The character is visible and belongs to ASCII. -/
def isVisibleAscii (character : Char) : Bool :=
  0x20 ≤ character.toNat && character.toNat < 0x7f

/-- The table of widths says nothing of these characters. -/
theorem outside_cellRanges : ∀ range ∈ Text.cellRanges, range.2.1 < 0x20 ∨ 0x7f ≤ range.1 := by
  decide +kernel

theorem cells_of_visible {character : Char} (visible : isVisibleAscii character = true) :
    cells character = 1 := by
  simp only [isVisibleAscii, Bool.and_eq_true, decide_eq_true_eq] at visible
  simp only [cells]
  split
  · next first last width found =>
      have within := List.find?_some found
      simp only [Bool.and_eq_true, decide_eq_true_eq] at within
      rcases outside_cellRanges _ (List.mem_of_find?_eq_some found) with below | above
      · exact absurd (within.2.trans_lt below) (by omega)
      · exact absurd (above.trans within.1) (by omega)
  · rfl

theorem ne_of_visible {character other : Char} (visible : isVisibleAscii character = true)
    (hidden : isVisibleAscii other = false) : character ≠ other := by
  rintro rfl
  exact absurd visible (by simp [hidden])

section Lines

variable {line : List Char}

theorem lineWidth_of_visible (visible : ∀ character ∈ line, isVisibleAscii character = true) :
    lineWidth line = line.length := by
  have from_any : ∀ last, widthAfter last line = line.length := by
    induction line with
    | nil => exact fun _ => rfl
    | cons character rest ih =>
        intro last
        rcases List.forall_mem_cons.mp visible with ⟨first, later⟩
        rw [widthAfter.eq_def]
        have notJoiner : character ≠ joiner := ne_of_visible first rfl
        have notSelector : character ≠ selector := ne_of_visible first rfl
        simp only [notJoiner, notSelector, cells_of_visible first, Nat.one_ne_zero, if_false,
          ih later, List.length_cons]
        omega
  exact from_any none

theorem expandTabs_of_visible (visible : ∀ character ∈ line, isVisibleAscii character = true) :
    expandTabs line = line := by
  have noTab : '\t' ∉ line := fun mem => absurd (visible _ mem) (by decide)
  rw [expandTabs, Text.splitAt_of_not_mem noTab, expandPieces]

/-- The words of a line are the line, if there are any. -/
theorem flatten_wordsAfter {word : List Char} {anyLetter anyBlank : Bool}
    (found : anyLetter = true ∨ wordsAfter word anyLetter anyBlank line ≠ []) :
    (wordsAfter word anyLetter anyBlank line).flatten = word ++ line := by
  induction line generalizing word anyLetter anyBlank with
  | nil =>
      have letter : anyLetter = true := by simpa [wordsAfter] using found
      simp [wordsAfter, letter]
  | cons character rest ih =>
      simp only [wordsAfter] at found ⊢
      by_cases blank : Text.isBlank character = true
      · simp only [blank, if_true] at found ⊢
        simpa using ih found
      · simp only [blank, Bool.false_eq_true, if_false]
        have goesOn (before : List Char) :
            (wordsAfter (before ++ [character]) true false rest).flatten =
              before ++ [character] ++ rest := ih (Or.inl rfl)
        cases anyBlank with
        | true => simpa using goesOn []
        | false => simpa using goesOn word

/-- Words that fit are added to the line that has been begun. -/
theorem foldl_add_of_fits {width : Nat} {overflow : Overflow} {words : List (List Char)}
    {broken : Broken} (visible : ∀ character ∈ words.flatten, isVisibleAscii character = true)
    (fits : broken.used + words.flatten.length ≤ width) :
    words.foldl (Broken.add width overflow) broken =
      { broken with
        line := broken.line ++ words.flatten
        used := broken.used + words.flatten.length } := by
  induction words generalizing broken with
  | nil => simp
  | cons word later ih =>
      simp only [List.flatten_cons, List.mem_append, List.length_append] at visible fits
      have inWord : ∀ character ∈ word, isVisibleAscii character = true :=
        fun character mem => visible character (Or.inl mem)
      have trimmed : (Text.trimEnd word).Sublist word :=
        (List.rdropWhile_prefix Text.isBlank word).sublist
      have added : Broken.add width overflow broken word =
          { broken with line := broken.line ++ word, used := broken.used + word.length } := by
        have short := trimmed.length_le
        rw [Broken.add.eq_def, lineWidth_of_visible fun character mem =>
          inWord character (trimmed.subset mem), if_pos (by omega), lineWidth_of_visible inWord]
      rw [List.foldl_cons, added, ih (fun character mem => visible character (Or.inr mem))
        (by simp only; omega)]
      simp [Nat.add_assoc]

/-- A line that fits is shown as it is. -/
theorem wrapLine_of_fits {width : Nat} {overflow : Overflow}
    (visible : ∀ character ∈ line, isVisibleAscii character = true) (fits : line.length ≤ width) :
    wrapLine width overflow line = [line] := by
  have kept : shorten width overflow (dropBlanks width line) = line := by
    have whole : dropBlanks width line = line := by
      simp [dropBlanks, Nat.sub_eq_zero_of_le fits]
    rw [whole, shorten.eq_def, if_pos (by rwa [lineWidth_of_visible visible])]
  simp only [wrapLine, expandTabs_of_visible visible]
  by_cases noWords : wordsAfter [] false false line = []
  · simp [noWords, kept]
  · have joined : (wordsAfter [] false false line).flatten = line :=
      flatten_wordsAfter (Or.inr noWords)
    rw [foldl_add_of_fits (by rwa [joined]) (by simpa [joined] using fits), joined]
    simp [noWords, kept]

/-- A text of one line that fits into the width of the console is printed as it is. -/
theorem printed_of_fits {text : List Char} (plain : plainText text = .ok line)
    (visible : ∀ character ∈ line, isVisibleAscii character = true)
    (fits : line.length ≤ consoleWidth) : printed text = .ok (line ++ ['\n']) := by
  have oneLine : '\n' ∉ line := fun mem => absurd (visible _ mem) (by decide)
  have alone : wrap consoleWidth .fold line = [line] := by
    rw [wrap, Text.splitAt_of_not_mem oneLine, List.flatMap_singleton,
      wrapLine_of_fits visible fits]
  simp only [printed, plain, Except.map, alone, List.flatMap_singleton]

end Lines

end Rulebook.Console
