import Rulebook.Text.CompositionTable

/-!
# Composed form

A letter with marks can be written in several ways. `composed` gives the one form in which
everything that can be is one character: the text is divided into letters and marks, the marks are
put in order, and letters and marks are put together again. The functions work on code points, so
that they apply to texts with code points that stand for no character.
-/

namespace Rulebook.Text

/-- The class of a mark; every other character has class zero. -/
def markClass (code : Nat) : Nat :=
  match markClasses.find? fun (first, last, _) => first ≤ code && code ≤ last with
  | some (_, _, class_) => class_
  | none => 0

/-- The first syllable of the Korean script that is composed of letters, and their number. -/
def syllables : Nat × Nat := (0xAC00, 11172)

/-- The letters of a syllable of the Korean script. -/
def syllableLetters (code : Nat) : List Nat :=
  let index := code - syllables.1
  let last := index % 28
  [0x1100 + index / 588, 0x1161 + index % 588 / 28] ++ if last = 0 then [] else [0x11A7 + last]

/-- The code point is a syllable of the Korean script. -/
def isSyllable (code : Nat) : Bool :=
  syllables.1 ≤ code && code < syllables.1 + syllables.2

/-- A character divided into its letter and its marks, as often as `depth` allows. -/
def divide : (depth : Nat) → (code : Nat) → List Nat
  | 0, code => [code]
  | depth + 1, code =>
      if code < 0xC0 then [code]
      else if isSyllable code then syllableLetters code
      else match compositions.find? fun (composed, _, _) => composed == code with
        | some (_, first, 0) => divide depth first
        | some (_, first, second) => divide depth first ++ [second]
        | none => [code]

/-- No character divides more often than this. -/
def divisionDepth : Nat := 8

/-- Puts a mark in its place among the marks in front of it, which stand in reverse order. -/
def insertMark (code : Nat) : List Nat → List Nat
  | [] => [code]
  | before :: rest =>
      if markClass code < markClass before then before :: insertMark code rest
      else code :: before :: rest

/-- Adds a code point to a text in reverse order whose marks are in order. -/
def addInOrder (text : List Nat) (code : Nat) : List Nat :=
  if markClass code = 0 then code :: text else insertMark code text

/-- The text divided into letters and marks, the marks in order. -/
def divided (text : List Nat) : List Nat :=
  ((text.flatMap (divide divisionDepth)).foldl addInOrder []).reverse

/-- The character that two others make together. -/
def pair? (first second : Nat) : Option Nat :=
  if 0x1100 ≤ first ∧ first < 0x1113 ∧ 0x1161 ≤ second ∧ second < 0x1176 then
    some (syllables.1 + (first - 0x1100) * 588 + (second - 0x1161) * 28)
  else if isSyllable first ∧ (first - syllables.1) % 28 = 0 ∧ 0x11A8 ≤ second ∧
      second < 0x11C3 then
    some (first + (second - 0x11A7))
  else
    (compositions.find? fun (composed, a, b) => a == first && b == second && b != 0 &&
      !separateRanges.any fun (low, high) => low ≤ composed && composed ≤ high).map (·.1)

/-- Puts a divided text together: `letter` is the last letter, and `marks` are the marks since, in
reverse order, that did not go with it. -/
def compose (letter : Option Nat) (marks : List Nat) : List Nat → List Nat
  | [] => letter.toList ++ marks.reverse
  | code :: rest =>
      let class_ := markClass code
      let free := match marks with
        | [] => true
        | last :: _ => markClass last < class_
      match letter, if free then letter.bind (pair? · code) else none with
      | some _, some together => compose (some together) marks rest
      | _, _ =>
          if class_ = 0 then letter.toList ++ marks.reverse ++ compose (some code) [] rest
          else compose letter (code :: marks) rest

/-- The text in composed form. -/
def composed (text : List Nat) : List Nat :=
  compose none [] (divided text)

end Rulebook.Text
