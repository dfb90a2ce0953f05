/-!
# Cutting and joining texts

Cutting at a separator character and joining with a separator text are inverse to each other on
pieces that do not hold the separator. Lines end at any of the line boundary characters; positions
in a text are reported by a line that ends with the newline character alone and a column.
-/

namespace Rulebook.Text

/-- The pieces of a text between the occurrences of a separator character. -/
def splitAt (separator : Char) : List Char → List (List Char)
  | [] => [[]]
  | character :: rest =>
      if character = separator then [] :: splitAt separator rest
      else match splitAt separator rest with
        | [] => [[character]]
        | piece :: pieces => (character :: piece) :: pieces

/-- The pieces with a separator between them. -/
def join (separator : List Char) (pieces : List (List Char)) : List Char :=
  (pieces.intersperse separator).flatten

/-- The first occurrence of a separator divides a text into what is before and what is after. -/
def cutAt (separator : Char) : List Char → List Char × Option (List Char)
  | [] => ([], none)
  | character :: rest =>
      if character = separator then ([], some rest)
      else
        let (before, after) := cutAt separator rest
        (character :: before, after)

/-- The character ends a line. -/
def isLineBoundary (character : Char) : Bool :=
  let code := character.toNat
  (0x0A ≤ code && code ≤ 0x0D) || (0x1C ≤ code && code ≤ 0x1E) || code == 0x85 ||
    code == 0x2028 || code == 0x2029

/-- Lines of a text after the characters `line` of the current line, in reverse order. -/
def linesAfter (line : List Char) : List Char → List (List Char)
  | [] => if line.isEmpty then [] else [line.reverse]
  | '\r' :: '\n' :: rest => line.reverse :: linesAfter [] rest
  | character :: rest =>
      if isLineBoundary character then line.reverse :: linesAfter [] rest
      else linesAfter (character :: line) rest

/-- The lines of a text. A boundary at the very end starts no further line. -/
def lines (text : List Char) : List (List Char) :=
  linesAfter [] text

/-- Whether a text occurs somewhere inside another. -/
def occursIn (needle : List Char) : List Char → Bool
  | [] => needle.isEmpty
  | character :: rest => needle.isPrefixOf (character :: rest) || occursIn needle rest

/-- The line and the column of a position, both counted from one. -/
def lineAndColumn (text : List Char) (position : Nat) : Nat × Nat :=
  let before := text.take position
  (before.count '\n' + 1, (before.reverse.takeWhile (· != '\n')).length + 1)

end Rulebook.Text
