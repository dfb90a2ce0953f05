import Rulebook.Text.Digit
import Rulebook.Text.Lines

/-!
# Numeric addresses

A host may be given by its number: four decimal numbers with points between them, or eight
hexadecimal numbers with colons between them, of which one run of zeros may be left out and the
last two may be written as four decimal numbers.
-/

namespace Rulebook.Address

open Text

/-- A number from 0 to 255 in decimal, without zeros in front. -/
def isOctet (text : List Char) : Bool :=
  !text.isEmpty && text.length ≤ 3 && text.all Char.isDigit &&
    (text == ['0'] || text.head? != some '0') && numberOfDigits (digitRun text) ≤ 255

/-- Four decimal numbers with points between them. -/
def isQuad (text : List Char) : Bool :=
  let groups := splitAt '.' text
  groups.length == 4 && groups.all isOctet

/-- The places where a character may leave a reader of four numbers with single characters between
them. An even place `2 * n` is before the number `n`, and the next one is inside that number. -/
def placesAfter (character : Char) (place : Nat) : List Nat :=
  let inNumber := place % 2 = 1
  let further := if character.isDigit then [if inNumber then place else place + 1] else []
  if inNumber && place < 7 then further ++ [place + 1] else further

/-- The text leads from one of the places to the end of the fourth number. -/
def endsFourth : (places : List Nat) → List Char → Bool
  | places, [] => places.contains 7
  | places, character :: rest =>
      endsFourth (places.flatMap (placesAfter character)).eraseDups rest

/-- The text looks like four numbers with any characters between them. -/
def looksLikeNumbers (text : List Char) : Bool :=
  endsFourth [0] text

/-- A number of at most four hexadecimal digits. -/
def isGroup (text : List Char) : Bool :=
  !text.isEmpty && text.length ≤ 4 && text.all fun character => (hexValue? character).isSome

/-- The groups between the colons of an address. Four decimal numbers at the end count as two
groups. -/
def groupsOf? (text : List Char) : Option (List (List Char)) :=
  let groups := splitAt ':' text
  match groups.getLast? with
  | none => none
  | some last =>
      if last.contains '.' then
        if isQuad last then some (groups.dropLast ++ [['0'], ['0']]) else none
      else some groups

/-- The groups form an address: eight of them, or fewer with one gap. A gap at either end shows as
two empty groups there. -/
def areGroups (groups : List (List Char)) : Bool :=
  let inner := (groups.drop 1).dropLast
  match inner.filter List.isEmpty with
  | [] => groups.length == 8 && groups.all isGroup
  | [_] =>
      let before := (groups.take 1 ++ inner.takeWhile (!·.isEmpty))
      let after := (inner.dropWhile (!·.isEmpty)).drop 1 ++ groups.drop (groups.length - 1)
      let isSide (side : List (List Char)) : Bool := side == [[]] || side.all isGroup
      isSide before && isSide after &&
        (before.filter (!·.isEmpty)).length + (after.filter (!·.isEmpty)).length ≤ 7
  | _ => false

/-- Hexadecimal numbers with colons between them, and a zone after a percent sign. -/
def isColonAddress (text : List Char) : Bool :=
  let (number, zone) := cutAt '%' text
  let zoneFits := match zone with
    | none => true
    | some zone => !zone.isEmpty && !zone.contains '%'
  zoneFits && !text.contains '/' && 3 ≤ (splitAt ':' number).length &&
    (groupsOf? number).any areGroups

end Rulebook.Address
