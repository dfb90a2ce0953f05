/-!
# Reading bytes piece by piece

A character set says what the bytes in front of a text amount to. Reading a text repeats that until
no byte is left; what cannot be read becomes a broken piece. Some sets carry a state from piece to
piece.
-/

namespace Rulebook.Text

/-- A character, or nothing where bytes cannot be read. -/
abbrev Piece := Option Char

/-- What the bytes in front of a text amount to. -/
inductive Reading (σ : Type)
  /-- They stand for characters: the first byte and some more. -/
  | characters (text : List Char) (more : Nat) (state : σ)
  /-- They stand for nothing, and the text goes on after the first byte and some more. -/
  | broken (more : Nat) (state : σ)
  /-- The text ends within them. -/
  | unfinished
  /-- The set has no rule for them. -/
  | lawless

/-- One character that the first byte stands for. -/
def Reading.single {σ : Type} (character : Char) (state : σ) : Reading σ :=
  .characters [character] 0 state

/-- The characters that the first byte and some more stand for; the first byte is broken if there
are none. -/
def Reading.orBroken {σ : Type} (text? : Option (List Char)) (more : Nat) (state : σ) :
    Reading σ :=
  match text? with
  | some text => .characters text more state
  | none => .broken 0 state

/-- How a character set reads the bytes in front of a text: the first one and those that follow. -/
abbrev Reader (σ : Type) := σ → UInt8 → List UInt8 → Reading σ

/-- How the reading of a text ends. -/
inductive Ending
  /-- Every byte is read. -/
  | complete
  | unfinished (left : Nat)
  /-- The set has no rule for the bytes that are left. -/
  | lawless
deriving DecidableEq, Repr, Inhabited

/-- The pieces of a text after the bytes that are skipped, and how the reading ends. -/
def Reader.runAfter {σ : Type} (reader : Reader σ) :
    (skipped : Nat) → σ → List UInt8 → List Piece × Ending
  | _, _, [] => ([], .complete)
  | skipped + 1, state, _ :: rest => reader.runAfter skipped state rest
  | 0, state, first :: rest =>
      match reader state first rest with
      | .characters text more state =>
          let (pieces, ending) := reader.runAfter more state rest
          (text.map some ++ pieces, ending)
      | .broken more state =>
          let (pieces, ending) := reader.runAfter more state rest
          (none :: pieces, ending)
      | .unfinished => ([], .unfinished (rest.length + 1))
      | .lawless => ([], .lawless)

/-- The pieces of a text, and how the reading ends. -/
def Reader.run {σ : Type} (reader : Reader σ) (start : σ) (bytes : List UInt8) :
    List Piece × Ending :=
  reader.runAfter 0 start bytes

end Rulebook.Text
