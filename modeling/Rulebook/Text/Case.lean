import Rulebook.Text.CaseTable

/-!
# Lower and upper case

Searching compares texts in lower case, and levels and request methods are compared in upper case.
Both changes cover every script. A capital sigma is the one character whose lower case depends on
its neighbours: at the end of a word it takes its final form.
-/

namespace Rulebook.Text

/-- The code point that a table of runs assigns to a code point, if one of its runs holds it. -/
def shiftByRuns? (runs : List (Nat × Nat × Nat × Int)) (code : Nat) : Option Nat :=
  (runs.find? fun (first, last, stride, _) =>
    first ≤ code && code ≤ last && (code - first) % stride == 0).map
      fun (_, _, _, distance) => (code + distance).toNat

/-- The code point lies in one of the ranges. -/
def inRanges (ranges : List (Nat × Nat)) (code : Nat) : Bool :=
  ranges.any fun (first, last) => first ≤ code && code ≤ last

/-- The lower case of one character, whatever stands around it. -/
def lowerChar (character : Char) : List Char :=
  let code := character.toNat
  if code < 0x80 then
    [if 0x41 ≤ code ∧ code ≤ 0x5A then Char.ofNat (code + 0x20) else character]
  else match lowerExpansions.lookup code with
    | some codes => codes.map Char.ofNat
    | none => [((shiftByRuns? lowerRuns code).map Char.ofNat).getD character]

/-- The character in upper case, which may be several. -/
def upperChar (character : Char) : List Char :=
  let code := character.toNat
  if code < 0x80 then
    [if 0x61 ≤ code ∧ code ≤ 0x7A then Char.ofNat (code - 0x20) else character]
  else match upperExpansions.lookup code with
    | some codes => codes.map Char.ofNat
    | none => [((shiftByRuns? upperRuns code).map Char.ofNat).getD character]

/-- Whether the first character that is not passed over has case. -/
def meetsLetter : List Char → Bool
  | [] => false
  | character :: rest =>
      if inRanges caseIgnorableRanges character.toNat then meetsLetter rest
      else inRanges casedRanges character.toNat

/-- The lower case of a text, given the characters in front of it in reverse order. -/
def lowerAfter (before : List Char) : List Char → List Char
  | [] => []
  | character :: rest =>
      let lowered :=
        if character = 'Σ' then
          [if meetsLetter before && !meetsLetter rest then 'ς' else 'σ']
        else lowerChar character
      lowered ++ lowerAfter (character :: before) rest

/-- The text in lower case; a sigma at the end of a word takes its final form. -/
def lower (text : List Char) : List Char :=
  lowerAfter [] text

/-- The text in upper case. -/
def upper (text : List Char) : List Char :=
  text.flatMap upperChar

end Rulebook.Text
