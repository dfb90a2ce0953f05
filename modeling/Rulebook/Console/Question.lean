import Rulebook.Text.Blank
import Rulebook.Text.Case

/-!
# Questions

A question is asked until it is answered with yes or no. It is shown without the escape sequences
with which a terminal changes its style, and what is typed appears behind it.
-/

namespace Rulebook.Console

/-- The number of characters of an escape sequence behind its first one, if that stands before a
text. -/
def escapeLength? (text : List Char) : Option Nat :=
  match text with
  | '[' :: rest =>
      let isParameter (character : Char) : Bool :=
        character == ';' || character == '?' || ('0' ≤ character && character ≤ '9')
      match rest.dropWhile isParameter with
      | letter :: _ =>
          if letter.isAlpha then some ((rest.takeWhile isParameter).length + 2) else none
      | [] => none
  | _ => none

/-- A text without its escape sequences, after `taken` characters of one. -/
def withoutEscapes : (taken : Nat) → List Char → List Char
  | _, [] => []
  | taken + 1, _ :: rest => withoutEscapes taken rest
  | 0, character :: rest =>
      match if character = '\x1b' then escapeLength? rest else none with
      | some length => withoutEscapes length rest
      | none => character :: withoutEscapes 0 rest

/-- The line that is read next from an input, and what is left of it. -/
def nextLine? (input : List Char) : Option (List Char × List Char) :=
  let isEnd (character : Char) : Bool := character == '\n' || character == '\r'
  if input.isEmpty then none
  else
    let line := input.takeWhile (!isEnd ·)
    match input.dropWhile (!isEnd ·) with
    | '\r' :: '\n' :: rest => some (line, rest)
    | _ :: rest => some (line, rest)
    | [] => some (line, [])

/-- Asks a question until it is answered, at most `bound` times: what is printed, the answer unless
the input ends, and what is left of the input. No answer means no. -/
def ask (question : List Char) : (bound : Nat) → (input : List Char) →
    List Char × Option Bool × List Char
  | 0, input => (question, none, input)
  | bound + 1, input =>
      match nextLine? input with
      | none => (question, none, [])
      | some (line, rest) =>
          let shown := question ++ line ++ ['\n']
          let word := Text.trim (Text.lower line)
          if word = ['y'] ∨ word = "yes".toList then (shown, some true, rest)
          else if word = ['n'] ∨ word = "no".toList ∨ word = [] then (shown, some false, rest)
          else
            let (more, answer, left) := ask question bound rest
            (shown ++ "Error: invalid input\n".toList ++ more, answer, left)

/-- A question about going on, as it is shown. -/
def questionText (question : List Char) : List Char :=
  withoutEscapes 0 (question ++ " [y/N]: ".toList)

end Rulebook.Console
