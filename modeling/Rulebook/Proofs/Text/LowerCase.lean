import Mathlib
import Rulebook.Proofs.Text.Trimming
import Rulebook.Text.Case

/-!
# The lower case of a character

The lower case of a character is read from a table of runs of code points, apart from one character
that becomes two. Two things are read off the table as a whole: no run holds the lower case of a
character that a run holds, and no run holds a blank character or leads to one. So lower case is
final, and blanks stay what they are. That the runs are apart is seen from their ends, and from the
parity of their members where only every second code point belongs to a run.
-/

namespace Rulebook.Text

/-- A run of the table holds a code point. -/
def InRun (run : Nat × Nat × Nat × Int) (code : Nat) : Prop :=
  run.1 ≤ code ∧ code ≤ run.2.1 ∧ (code - run.1) % run.2.2.1 = 0

/-- The first and the last code point to which a run leads. -/
def imageOf (run : Nat × Nat × Nat × Int) : Nat × Nat :=
  ((run.1 + run.2.2.2).toNat, (run.2.1 + run.2.2.2).toNat)

/-- Two stretches of code points have none in common. -/
def areApart (left right : Nat × Nat) : Bool :=
  Nat.blt left.2 right.1 || Nat.blt right.2 left.1

/-- No code point to which one run leads is in another: the runs are apart, or they have every
second code point and begin at different ones. -/
def leadsOutside (run other : Nat × Nat × Nat × Int) : Bool :=
  areApart (imageOf run) (other.1, other.2.1) ||
    (other.2.2.1 == 2 && (run.2.2.1 == 2 || run.1 == run.2.1) &&
      ((imageOf run).1 + other.1) % 2 == 1)

/-- The blank characters as ranges. -/
def blankRanges : List (Nat × Nat) :=
  [(0x09, 0x0D), (0x1C, 0x20), (0x85, 0x85), (0xA0, 0xA0), (0x1680, 0x1680), (0x2000, 0x200A),
    (0x2028, 0x2029), (0x202F, 0x202F), (0x205F, 0x205F), (0x3000, 0x3000)]

/-! ## Ranges -/

theorem not_within_of_areApart {left right : Nat × Nat} (apart : areApart left right = true)
    {code : Nat} (within : left.1 ≤ code ∧ code ≤ left.2) : ¬(right.1 ≤ code ∧ code ≤ right.2) := by
  simp only [areApart, Bool.or_eq_true, Nat.blt_eq] at apart
  omega

theorem inRanges_iff {ranges : List (Nat × Nat)} {code : Nat} :
    inRanges ranges code = true ↔ ∃ range ∈ ranges, range.1 ≤ code ∧ code ≤ range.2 := by
  simp [inRanges]

/-- A code point of one range is not in ranges that are apart from it. -/
theorem inRanges_of_areApart {range : Nat × Nat} {ranges : List (Nat × Nat)}
    (apart : ranges.all (areApart range) = true) {code : Nat}
    (within : range.1 ≤ code ∧ code ≤ range.2) : inRanges ranges code = false := by
  rw [Bool.eq_false_iff, ne_eq, inRanges_iff]
  rintro ⟨other, mem, inOther⟩
  exact not_within_of_areApart (List.all_eq_true.mp apart other mem) within inOther

theorem isBlank_eq (character : Char) : isBlank character = inRanges blankRanges character.toNat := by
  rw [Bool.eq_iff_iff, inRanges_iff]
  simp [isBlank, blankRanges]
  omega

/-! ## The table as a whole -/

theorem lowerRuns_leadsOutside :
    (lowerRuns.all fun run => lowerRuns.all (leadsOutside run)) = true := by
  decide +kernel

/-- A run leads to characters, and neither to the one that becomes two nor to a blank. -/
theorem lowerRuns_images :
    (lowerRuns.all fun run => 0 ≤ run.1 + run.2.2.2 && areApart (imageOf run) (0x130, 0x130) &&
      areApart (imageOf run) (0xD800, 0xDFFF) && (imageOf run).2 < 0x110000 &&
      blankRanges.all (areApart (imageOf run)) &&
      blankRanges.all (areApart (run.1, run.2.1))) = true := by
  decide +kernel

theorem blanks_apart :
    (caseIgnorableRanges.all fun range => blankRanges.all (areApart range)) = true ∧
      (casedRanges.all fun range => blankRanges.all (areApart range)) = true := by
  decide +kernel

/-- What the table says of a run. -/
structure IsProperRun (run : Nat × Nat × Nat × Int) : Prop where
  least : 0 ≤ run.1 + run.2.2.2
  notDotted : areApart (imageOf run) (0x130, 0x130) = true
  notSurrogate : areApart (imageOf run) (0xD800, 0xDFFF) = true
  greatest : (imageOf run).2 < 0x110000
  visibleImage : blankRanges.all (areApart (imageOf run)) = true
  visible : blankRanges.all (areApart (run.1, run.2.1)) = true

theorem isProperRun_of_mem {run : Nat × Nat × Nat × Int} (mem : run ∈ lowerRuns) :
    IsProperRun run := by
  have read := List.all_eq_true.mp lowerRuns_images run mem
  simp only [Bool.and_eq_true, decide_eq_true_eq] at read
  rcases read with ⟨⟨⟨⟨⟨least, notDotted⟩, notSurrogate⟩, greatest⟩, visibleImage⟩, visible⟩
  exact ⟨least, notDotted, notSurrogate, greatest, visibleImage, visible⟩

section Runs

variable {run other : Nat × Nat × Nat × Int} {code : Nat}

theorem within_imageOf (proper : IsProperRun run) (inRun : InRun run code) :
    (imageOf run).1 ≤ (code + run.2.2.2).toNat ∧ (code + run.2.2.2).toNat ≤ (imageOf run).2 := by
  have least := proper.least
  rcases inRun with ⟨first, last, _⟩
  simp only [imageOf]
  omega

theorem not_inRun_of_leadsOutside (proper : IsProperRun run)
    (outside : leadsOutside run other = true) (inRun : InRun run code) :
    ¬InRun other (code + run.2.2.2).toNat := by
  rintro ⟨first, last, every⟩
  simp only [leadsOutside, Bool.or_eq_true, Bool.and_eq_true, beq_iff_eq] at outside
  rcases outside with apart | ⟨⟨second, alternate⟩, odd⟩
  · exact not_within_of_areApart apart (within_imageOf proper inRun) ⟨first, last⟩
  · have least := proper.least
    rcases inRun with ⟨firstHere, lastHere, everyHere⟩
    have even : (code - run.1) % 2 = 0 := by
      rcases alternate with two | alone
      · rwa [two] at everyHere
      · omega
    rw [second] at every
    simp only [imageOf] at odd
    omega

/-- No run holds a code point to which a run leads. -/
theorem not_inRun_image (mem : run ∈ lowerRuns) (inRun : InRun run code) :
    ∀ other ∈ lowerRuns, ¬InRun other (code + run.2.2.2).toNat := by
  intro other otherMem
  have outside := List.all_eq_true.mp lowerRuns_leadsOutside run mem
  exact not_inRun_of_leadsOutside (isProperRun_of_mem mem)
    (List.all_eq_true.mp outside other otherMem) inRun

end Runs

/-! ## Characters -/

theorem inRun_iff {run : Nat × Nat × Nat × Int} {code : Nat} :
    InRun run code ↔
      (run.1 ≤ code && code ≤ run.2.1 && (code - run.1) % run.2.2.1 == 0) = true := by
  simp [InRun, and_assoc]

theorem shiftByRuns?_cases (runs : List (Nat × Nat × Nat × Int)) (code : Nat) :
    (shiftByRuns? runs code = none ∧ ∀ run ∈ runs, ¬InRun run code) ∨
      ∃ run ∈ runs, InRun run code ∧
        shiftByRuns? runs code = some (code + run.2.2.2).toNat := by
  cases shifted : shiftByRuns? runs code with
  | none =>
      have none := List.find?_eq_none.mp (Option.map_eq_none_iff.mp shifted)
      exact Or.inl ⟨rfl, fun run mem inRun => none run mem (inRun_iff.mp inRun)⟩
  | some image =>
      rcases Option.map_eq_some_iff.mp shifted with ⟨run, found, rfl⟩
      have holds := List.find?_some found
      exact Or.inr ⟨run, List.mem_of_find?_eq_some found, inRun_iff.mpr holds, rfl⟩

/-- A character is its own lower case, or becomes two characters, or a run leads to its lower
case. -/
theorem lowerChar_cases (character : Char) :
    lowerChar character = [character] ∨
      character.toNat = 0x130 ∧ lowerChar character = ['i', '\u0307'] ∨
      ∃ run ∈ lowerRuns, InRun run character.toNat ∧
        lowerChar character = [Char.ofNat (character.toNat + run.2.2.2).toNat] := by
  by_cases ascii : character.toNat < 0x80
  · by_cases capital : 0x41 ≤ character.toNat ∧ character.toNat ≤ 0x5A
    · have capitals : (0x41, 0x5A, 1, 32) ∈ lowerRuns := by decide
      refine Or.inr (Or.inr ⟨_, capitals, ⟨capital.1, capital.2, Nat.mod_one _⟩, ?_⟩)
      rw [lowerChar, if_pos ascii, if_pos capital]
      congr 2
    · exact Or.inl (by rw [lowerChar, if_pos ascii, if_neg capital])
  · by_cases dotted : character.toNat = 0x130
    · refine Or.inr (Or.inl ⟨dotted, ?_⟩)
      simp [lowerChar, dotted, lowerExpansions]
    · have single : lowerExpansions.lookup character.toNat = none := by
        have differs : (character.toNat == 0x130) = false := by simpa using dotted
        simp only [lowerExpansions, List.lookup, differs]
      rw [lowerChar, if_neg ascii, single]
      rcases shiftByRuns?_cases lowerRuns character.toNat with
        ⟨shifted, _⟩ | ⟨run, mem, inRun, shifted⟩
      · exact Or.inl (by simp [shifted])
      · exact Or.inr (Or.inr ⟨run, mem, inRun, by simp [shifted]⟩)

theorem lowerChar_ne_nil (character : Char) : lowerChar character ≠ [] := by
  rcases lowerChar_cases character with same | ⟨_, lowered⟩ | ⟨run, _, _, lowered⟩ <;> simp [*]

theorem lowerChar_of_outside {character : Char} (notDotted : character.toNat ≠ 0x130)
    (outside : ∀ run ∈ lowerRuns, ¬InRun run character.toNat) :
    lowerChar character = [character] := by
  rcases lowerChar_cases character with same | ⟨dotted, _⟩ | ⟨run, mem, inRun, _⟩
  · exact same
  · exact absurd dotted notDotted
  · exact absurd inRun (outside run mem)

/-- The character to which a run leads is not changed to another one on the way. -/
theorem toNat_image {run : Nat × Nat × Nat × Int} (mem : run ∈ lowerRuns) {code : Nat}
    (inRun : InRun run code) :
    (Char.ofNat (code + run.2.2.2).toNat).toNat = (code + run.2.2.2).toNat := by
  have proper := isProperRun_of_mem mem
  have within := within_imageOf proper inRun
  have notSurrogate := not_within_of_areApart proper.notSurrogate within
  have greatest := proper.greatest
  rw [Char.toNat_ofNat, if_pos]
  simp only [Nat.isValidChar]
  omega

/-- Lower case has no other lower case. -/
theorem lowerChar_of_mem_lowerChar {character lowered : Char} (mem : lowered ∈ lowerChar character) :
    lowerChar lowered = [lowered] := by
  rcases lowerChar_cases character with same | ⟨_, two⟩ | ⟨run, inTable, inRun, single⟩
  · rw [same, List.mem_singleton] at mem
    rw [mem, same]
  · rw [two] at mem
    simp only [List.mem_cons, List.not_mem_nil, or_false] at mem
    rcases mem with rfl | rfl <;> decide +kernel
  · rw [single, List.mem_singleton] at mem
    subst mem
    have proper := isProperRun_of_mem inTable
    have code := toNat_image inTable inRun
    apply lowerChar_of_outside
    · rw [code]
      have apart := not_within_of_areApart proper.notDotted (within_imageOf proper inRun)
      simp only at apart
      omega
    · rw [code]
      exact not_inRun_image inTable inRun

/-! ## Blank characters -/

/-- A blank is in no ranges that are apart from the blanks. -/
theorem inRanges_of_isBlank {ranges : List (Nat × Nat)}
    (apart : (ranges.all fun range => blankRanges.all (areApart range)) = true) {character : Char}
    (blank : isBlank character = true) : inRanges ranges character.toNat = false := by
  rw [isBlank_eq] at blank
  rw [Bool.eq_false_iff, ne_eq, inRanges_iff]
  rintro ⟨range, mem, within⟩
  rw [inRanges_of_areApart (List.all_eq_true.mp apart range mem) within] at blank
  cases blank

theorem lowerChar_of_isBlank {character : Char} (blank : isBlank character = true) :
    lowerChar character = [character] := by
  rw [isBlank_eq] at blank
  apply lowerChar_of_outside
  · intro dotted
    rw [dotted] at blank
    exact absurd blank (by decide)
  · intro run mem inRun
    have apart := inRanges_of_areApart (isProperRun_of_mem mem).visible ⟨inRun.1, inRun.2.1⟩
    rw [apart] at blank
    cases blank

theorem isBlank_of_mem_lowerChar {character lowered : Char} (visible : isBlank character = false)
    (mem : lowered ∈ lowerChar character) : isBlank lowered = false := by
  rcases lowerChar_cases character with same | ⟨_, two⟩ | ⟨run, inTable, inRun, single⟩
  · rw [same, List.mem_singleton] at mem
    rwa [mem]
  · rw [two] at mem
    simp only [List.mem_cons, List.not_mem_nil, or_false] at mem
    rcases mem with rfl | rfl <;> decide
  · rw [single, List.mem_singleton] at mem
    have proper := isProperRun_of_mem inTable
    rw [mem, isBlank_eq, toNat_image inTable inRun]
    exact inRanges_of_areApart proper.visibleImage (within_imageOf proper inRun)

end Rulebook.Text
