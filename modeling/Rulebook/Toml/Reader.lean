import Rulebook.Toml.Document
import Rulebook.Toml.Scanner

/-!
# Reading TOML documents

`Toml.read` reads the table that a document denotes, statement by statement. As in the reader for
JSON, the functions that call each other take a bound on the number of calls that are still
needed, and start with more than any text of its length can use. It is assumed that there is room
on the stack for as many levels as arrays and tables in the document nest.
-/

namespace Rulebook.Toml

/-- A fault of the document at a place in the text. -/
def placed {α : Type} (rest : List Char) : Except FaultCause α → Except Fault α
  | .ok value => .ok value
  | .error cause => .error (.here cause rest)

/-- A table on one line under construction: its entries, and the keys of the values in it that were
written in one piece. -/
structure InlineTable where
  entries : Table
  /-- The keys of the values that were written in one piece. -/
  frozen : List Key

/-- Gives a value to a key of a table between braces. -/
def InlineTable.assign (inline : InlineTable) (key : Key) (value : Toml) :
    Except FaultCause InlineTable :=
  let name := key.getLast?.getD ""
  if inline.frozen.any (·.isPrefixOf key) then .error (.frozen key)
  else match alterTable false some key.dropLast inline.entries with
    | none => .error .overwritten
    | some _ =>
        match alterTable false (Document.addEntry name value) key.dropLast inline.entries with
        | none => .error (.duplicateName name)
        | some entries =>
            .ok ⟨entries, if value.isNested then key :: inline.frozen else inline.frozen⟩

/-- Reads the key of a pair and the equals sign with the space around it. -/
def scanPairKey (text : List Char) : Except Fault (Key × List Char) :=
  match scanKey text with
  | .error fault => .error fault
  | .ok (key, '=' :: rest) => .ok (key, skipSpace rest)
  | .ok (_, rest) => .error (.here .expectedEquals rest)

mutual

/-- Reads a value. Each level of nesting takes one from the bound. -/
def readValue : (bound : Nat) → List Char → Except Fault (Toml × List Char)
  | 0, text => .error (.here .invalidValue text)
  | bound + 1, text =>
      match scanText? text with
      | some (.ok (read, rest)) => .ok (str (String.ofList read), rest)
      | some (.error fault) => .error fault
      | none =>
          match text with
          | '[' :: rest =>
              match skipBetween false rest with
              | .error fault => .error fault
              | .ok (']' :: left) => .ok (arr [], left)
              | .ok first =>
                  match readItems bound first with
                  | .error fault => .error fault
                  | .ok (items, left) => .ok (arr items, left)
          | '\x7b' :: rest =>
              match skipSpace rest with
              | '\x7d' :: left => .ok (table [], left)
              | first =>
                  match readPairs bound ⟨[], []⟩ first with
                  | .error fault => .error fault
                  | .ok (entries, left) => .ok (table entries, left)
          | _ => scanScalar text

/-- Reads the items of an array up to its bracket. -/
def readItems : (bound : Nat) → List Char → Except Fault (List Toml × List Char)
  | 0, text => .error (.here .unclosedArray text)
  | bound + 1, text =>
      match readValue bound text with
      | .error fault => .error fault
      | .ok (item, afterItem) =>
          match skipBetween false afterItem with
          | .error fault => .error fault
          | .ok (']' :: left) => .ok ([item], left)
          | .ok (',' :: more) =>
              match skipBetween false more with
              | .error fault => .error fault
              | .ok (']' :: left) => .ok ([item], left)
              | .ok next =>
                  match readItems bound next with
                  | .error fault => .error fault
                  | .ok (items, left) => .ok (item :: items, left)
          | .ok rest => .error (.here .unclosedArray rest)

/-- Reads the pairs of a table up to its brace. -/
def readPairs : (bound : Nat) → InlineTable → List Char → Except Fault (Table × List Char)
  | 0, _, text => .error (.here .unclosedTable text)
  | bound + 1, inline, text =>
      match scanPairKey text with
      | .error fault => .error fault
      | .ok (key, afterKey) =>
          match readValue bound afterKey with
          | .error fault => .error fault
          | .ok (value, afterValue) =>
              match placed afterValue (inline.assign key value) with
              | .error fault => .error fault
              | .ok inline =>
                  match skipSpace afterValue with
                  | '\x7d' :: left => .ok (inline.entries, left)
                  | ',' :: more => readPairs bound inline (skipSpace more)
                  | rest => .error (.here .unclosedTable rest)

end

/-- A character with which a name may begin. -/
def isKeyStart (character : Char) : Bool :=
  isBareKeyChar character || character == '"' || character == '\''

/-- Reads a statement that begins with its first character, up to what may follow it on its
line. -/
def readStatement (document : Document) (text : List Char) :
    Except Fault (Document × List Char) :=
  match text with
  | '[' :: '[' :: rest =>
      match scanKey (skipSpace rest) with
      | .error fault => .error fault
      | .ok (key, afterKey) =>
          match placed afterKey (document.settled.declareItem key), afterKey with
          | .error fault, _ => .error fault
          | .ok document, ']' :: ']' :: left => .ok (document, left)
          | .ok _, _ => .error (.here .itemEnd afterKey)
  | '[' :: rest =>
      match scanKey (skipSpace rest) with
      | .error fault => .error fault
      | .ok (key, afterKey) =>
          match placed afterKey (document.settled.declareTable key), afterKey with
          | .error fault, _ => .error fault
          | .ok document, ']' :: left => .ok (document, left)
          | .ok _, _ => .error (.here .tableEnd afterKey)
  | '#' :: _ => .ok (document, text)
  | first :: _ =>
      if isKeyStart first then
        match scanPairKey text with
        | .error fault => .error fault
        | .ok (key, afterKey) =>
            match readValue (2 * afterKey.length + 2) afterKey with
            | .error fault => .error fault
            | .ok (value, afterValue) =>
                match placed afterValue (document.assign key value) with
                | .error fault => .error fault
                | .ok document => .ok (document, afterValue)
      else .error (.here .invalidStatement text)
  | [] => .ok (document, [])

/-- Reads the statements of a document, at most `bound` lines of them. -/
def readStatements : (bound : Nat) → Document → List Char → Except Fault Table
  | 0, document, _ => .ok document.entries
  | bound + 1, document, text =>
      match skipSpace text with
      | [] => .ok document.entries
      | '\n' :: rest => readStatements bound document rest
      | statement =>
          match readStatement document statement with
          | .error fault => .error fault
          | .ok (document, afterStatement) =>
              match skipComment (skipSpace afterStatement) with
              | .error fault => .error fault
              | .ok [] => .ok document.entries
              | .ok ('\n' :: rest) => readStatements bound document rest
              | .ok rest => .error (.here .statementEnd rest)

/-- The text with every line end as a single character. -/
def unifyLineEnds : List Char → List Char
  | '\r' :: '\n' :: rest => '\n' :: unifyLineEnds rest
  | character :: rest => character :: unifyLineEnds rest
  | [] => []

/-- The values of a document. -/
def read (text : List Char) : Except Fault Table :=
  let document := unifyLineEnds text
  readStatements (document.length + 1) .empty document

end Rulebook.Toml
