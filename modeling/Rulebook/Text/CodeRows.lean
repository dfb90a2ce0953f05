/-!
# Tables of characters by row

Character sets of more than one byte place their characters in rows. A row is written as the text of
its characters, in which a blank stands for a place without a character; no table has a blank of its
own. The tables of the standards are kept this way, and the ways to count places are here as well.
-/

namespace Rulebook.Text

/-- The characters of a set by the number of their row. -/
abbrev CodeRows := List (Nat × String)

/-- The character at a place of a row. -/
def CodeRows.at? (rows : CodeRows) (row place : Nat) : Option Char :=
  match (rows.lookup row).bind fun text => text.toList[place]? with
  | none | some ' ' => none
  | some character => some character

/-- The character at a row and a column of a grid whose columns begin at 21 (hexadecimal). -/
def CodeRows.inGrid? (rows : CodeRows) (row column : Nat) : Option Char :=
  if 0x21 ≤ column then rows.at? row (column - 0x21) else none

/-- The character of two bytes that name a row and a column of a grid with their high bits set. -/
def CodeRows.inHighGrid? (rows : CodeRows) (first second : Nat) : Option Char :=
  if 0x80 ≤ first ∧ 0x80 ≤ second then rows.inGrid? (first - 0x80) (second - 0x80) else none

/-- The place that a second byte names, where the byte 7F (hexadecimal) is left out. -/
def widePlace? (second : Nat) : Option Nat :=
  if 0x40 ≤ second ∧ second < 0x7F then some (second - 0x40)
  else if 0x80 ≤ second ∧ second < 0xFF then some (second - 0x41)
  else none

/-- The character of two bytes of which the second names a place in a wide row. -/
def CodeRows.inWideRow? (rows : CodeRows) (first second : Nat) : Option Char :=
  (widePlace? second).bind (rows.at? first)

end Rulebook.Text
