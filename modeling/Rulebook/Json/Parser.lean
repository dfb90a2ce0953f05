import Rulebook.Json.Basic
import Rulebook.Json.Scanner
import Rulebook.Text.Blank

/-!
# Reading JSON text

`Json.parse` reads one value that fills a whole text. The reader accepts the undefined number and
the infinities by name, takes the last of several bindings of one field name, and converts whole
numbers of up to `digitLimit` digits. `Json.parseTyped` reads what was typed into a field: blanks
around it do not matter, and a blank field holds `null`.

The functions that read a value, the items of a list and the fields of an object call each other;
their first argument bounds the number of calls that are still needed, and `parse` starts with
more than any text of its length can use. The reader therefore takes texts of any nesting. Where a
program runs, open lists and objects take room on its stack and a text that nests too deep ends it;
what is stated about texts of unknown origin keeps to two hundred levels.
-/

namespace Rulebook.Json

/-- The values that are written as words, with the words. -/
def namedValues : List (List Char × Json) :=
  [("null".toList, null), ("true".toList, bool true), ("false".toList, bool false),
    ("NaN".toList, real .undefined), ("Infinity".toList, real (.infinity false)),
    ("-Infinity".toList, real (.infinity true))]

/-- Reads one of the words that stand for a value. -/
def scanNamed? (text : List Char) : Option (Json × List Char) :=
  namedValues.findSome? fun (word, value) =>
    if word.isPrefixOf text then some (value, text.drop word.length) else none

/-- The named value or number in front of a text. -/
def scanScalar (text : List Char) : Except Fault (Json × List Char) :=
  match scanNamed? text with
  | some found => .ok found
  | none =>
      match scanNumeral? text with
      | none => .error (.here .expectedValue text)
      | some (numeral, rest) =>
          if numeral.isWhole then
            if digitLimit < numeral.whole.length then
              .error (.here (.tooManyDigits numeral.whole.length) text)
            else .ok (int numeral.toInt, rest)
          else .ok (real numeral.toReal, rest)

mutual

/-- Reads a value at the beginning of a text and returns it with what is left. -/
def parseValue : (bound : Nat) → List Char → Except Fault (Json × List Char)
  | 0, text => .error (.here .expectedValue text)
  | bound + 1, text =>
      match text with
      | '"' :: rest =>
          match scanText text rest with
          | .ok (characters, left) => .ok (str (String.ofList characters), left)
          | .error fault => .error fault
      | '[' :: rest =>
          match skipSpace rest with
          | ']' :: left => .ok (arr [], left)
          | first =>
              match parseItems bound first with
              | .ok (items, left) => .ok (arr items, left)
              | .error fault => .error fault
      | '\x7b' :: rest =>
          match skipSpace rest with
          | '\x7d' :: left => .ok (obj [], left)
          | first =>
              match parseBindings bound first with
              | .ok (bindings, left) => .ok (obj (Fields.ofBindings bindings), left)
              | .error fault => .error fault
      | _ => scanScalar text

/-- Reads the items of a list that is not empty, and its closing bracket. -/
def parseItems : (bound : Nat) → List Char → Except Fault (List Json × List Char)
  | 0, text => .error (.here .expectedValue text)
  | bound + 1, text =>
      match parseValue bound text with
      | .error fault => .error fault
      | .ok (item, rest) =>
          match skipSpace rest with
          | ']' :: left => .ok ([item], left)
          | ',' :: more =>
              match parseItems bound (skipSpace more) with
              | .ok (items, left) => .ok (item :: items, left)
              | .error fault => .error fault
          | other => .error (.here .expectedComma other)

/-- Reads the bindings of an object that is not empty, and its closing brace. -/
def parseBindings : (bound : Nat) → List Char →
    Except Fault (List (String × Json) × List Char)
  | 0, text => .error (.here .expectedName text)
  | bound + 1, text =>
      match text with
      | '"' :: afterQuote =>
          match scanText text afterQuote with
          | .error fault => .error fault
          | .ok (name, afterName) =>
              match skipSpace afterName with
              | ':' :: afterColon =>
                  match parseValue bound (skipSpace afterColon) with
                  | .error fault => .error fault
                  | .ok (value, rest) =>
                      match skipSpace rest with
                      | '\x7d' :: left => .ok ([(String.ofList name, value)], left)
                      | ',' :: more =>
                          match parseBindings bound (skipSpace more) with
                          | .ok (bindings, left) =>
                              .ok ((String.ofList name, value) :: bindings, left)
                          | .error fault => .error fault
                      | other => .error (.here .expectedComma other)
              | other => .error (.here .expectedColon other)
      | _ => .error (.here .expectedName text)

end

/-- Reads the value that fills a text. -/
def parse (text : List Char) : Except Fault Json :=
  if text.head? = some '\uFEFF' then .error (.here .byteOrderMark text)
  else
    match parseValue (2 * text.length + 2) (skipSpace text) with
    | .error fault => .error fault
    | .ok (value, rest) =>
        match skipSpace rest with
        | [] => .ok value
        | extra => .error (.here .extraData extra)

/-- Reads a typed text as JSON: the blanks around it do not matter, and a blank text holds `null`.
A fault comes with its message, whose positions count from the first character that is not
blank. -/
def parseTyped (typed : List Char) : Except (Fault × List Char) Json :=
  let text := Text.trim typed
  if text.isEmpty then .ok null
  else match parse text with
    | .ok value => .ok value
    | .error fault => .error (fault, fault.message text)

end Rulebook.Json
