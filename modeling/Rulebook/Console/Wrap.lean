import Rulebook.Console.Cells
import Rulebook.Console.Markup
import Rulebook.Text.Blank
import Rulebook.Text.Lines

/-!
# Lines of a width

A text is shown in lines of a width. A tab becomes blanks up to the next multiple of eight cells. A
line is broken before the first word that does not fit; a word that does not fit at all is either
folded or cut. Blanks at the end of a line that go beyond the width are dropped. A text with tags is
printed in lines of the width of the console.
-/

namespace Rulebook.Console

/-- A line with its tabs as blanks, from a cell on. -/
def expandPieces : (cell : Nat) → List (List Char) → List Char
  | _, [] => []
  | _, [piece] => piece
  | cell, piece :: rest =>
      let used := cell + lineWidth piece
      let next := (used / 8 + 1) * 8
      piece ++ List.replicate (next - used) ' ' ++ expandPieces next rest

/-- The line with each tab replaced by the blanks up to the next stop. -/
def expandTabs (line : List Char) : List Char :=
  expandPieces 0 (Text.splitAt '\t' line)

/-- The words of a line with the blanks behind them, given the word so far and whether it ends in
blanks. Blanks in front belong to the first word; blanks alone are no word. -/
def wordsAfter (word : List Char) ( hasLetter hasBlank : Bool) : List Char → List (List Char)
  | [] => if hasLetter then [word] else []
  | character :: rest =>
      if Text.isBlank character then wordsAfter (word ++ [character]) hasLetter hasLetter rest
      else if hasBlank then word :: wordsAfter [character] true false rest
      else wordsAfter (word ++ [character]) true false rest

/-- What to do with a word that is wider than a line. -/
inductive Overflow
  /-- It goes on in the next line. -/
  | fold
  | ellipsis
deriving DecidableEq, Repr, Inhabited

/-- The state of breaking a line: the lines so far from the last one on, the line that is begun, and
how many cells count as used in it. -/
structure Broken where
  /-- The lines that are complete, the last one first. -/
  complete : List (List Char) := []
  line : List Char := []
  used : Nat := 0
deriving DecidableEq, Repr, Inhabited

namespace Broken

/-- Begins a new line with a text, unless nothing stands before it. -/
def push (broken : Broken) (text : List Char) : Broken :=
  if broken.complete.isEmpty && broken.line.isEmpty then
    { broken with line := text, used := lineWidth text }
  else ⟨broken.line :: broken.complete, text, lineWidth text⟩

/-- Puts one more word on the line, or on a new one where it does not fit. -/
def add (width : Nat) (overflow : Overflow) (broken : Broken) (word : List Char) : Broken :=
  let length := lineWidth (Text.trimEnd word)
  if broken.used + length ≤ width then
    { broken with line := broken.line ++ word, used := broken.used + lineWidth word }
  else if width < length then
    match overflow with
    | .fold => (Cluster.chop width [] 0 (Cluster.ofText word)).foldl push broken
    | .ellipsis => broken.push word
  else broken.push word

end Broken

/-- A line without the blanks at its end that go beyond a width. -/
def dropBlanks (width : Nat) (line : List Char) : List Char :=
  let blanks := line.length - (Text.trimEnd line).length
  line.take (line.length - min blanks (line.length - width))

/-- A line that is too long, cut to the width. -/
def shorten (width : Nat) (overflow : Overflow) (line : List Char) : List Char :=
  if lineWidth line ≤ width then line
  else match overflow with
    | .fold => cutToWidth width line
    | .ellipsis => cutToWidth (width - 1) line ++ ['…']

/-- The lines in which a line is shown. Blanks at the very end stay with the last word. -/
def wrapLine (width : Nat) (overflow : Overflow) (line : List Char) : List (List Char) :=
  let line := expandTabs line
  let words := wordsAfter [] false false line
  let broken := words.foldl (Broken.add width overflow) {}
  let lines := if words.isEmpty then [line] else (broken.line :: broken.complete).reverse
  lines.map fun line => shorten width overflow (dropBlanks width line)

/-- The lines of a text at most so many cells wide. -/
def wrap (width : Nat) (overflow : Overflow) (text : List Char) : List (List Char) :=
  (Text.splitAt '\n' text).flatMap (wrapLine width overflow)

/-- The number of cells in a line of the console. -/
def consoleWidth : Nat := 1000

/-- A text with tags on lines of its own. -/
def printed (text : List Char) : Except Failure (List Char) :=
  (plainText text).map fun plain =>
    (wrap consoleWidth .fold plain).flatMap fun line => line ++ ['\n']

end Rulebook.Console
