import Mathlib
import Rulebook.Json.Parser

/-!
# The steps of the reader

The reader of a value, of the items of a list and of the bindings of an object call each other. This
file says once what a call of each of them has read where it succeeds: the form of its text, and the
calls that it has made with the bound that is left. What holds of everything that is read follows by
induction on the bound.
-/

namespace Rulebook.Json

/-- What a call of the reader has read, and from which text. -/
inductive ValueStep (bound : Nat) (rest : List Char) : (text : List Char) → (value : Json) → Prop
  | text {more characters : List Char}
      (scanned : scanText ('"' :: more) more = .ok (characters, rest)) :
      ValueStep bound rest ('"' :: more) (str (String.ofList characters))
  | emptyList {more : List Char} (closed : skipSpace more = ']' :: rest) :
      ValueStep bound rest ('[' :: more) (arr [])
  | list {more : List Char} {items : List Json}
      (read : parseItems bound (skipSpace more) = .ok (items, rest)) :
      ValueStep bound rest ('[' :: more) (arr items)
  | emptyObject {more : List Char} (closed : skipSpace more = '\x7d' :: rest) :
      ValueStep bound rest ('\x7b' :: more) (obj [])
  | object {more : List Char} {bindings : List (String × Json)}
      (read : parseBindings bound (skipSpace more) = .ok (bindings, rest)) :
      ValueStep bound rest ('\x7b' :: more) (obj (Fields.ofBindings bindings))
  | scalar {text : List Char} {value : Json} (scanned : scanScalar text = .ok (value, rest)) :
      ValueStep bound rest text value

/-- What a call of the reader of items has read: an item, and a closing bracket or more items. -/
inductive ItemsStep (bound : Nat) (text rest : List Char) : (items : List Json) → Prop
  | last {item : Json} {after : List Char} (read : parseValue bound text = .ok (item, after))
      (closed : skipSpace after = ']' :: rest) : ItemsStep bound text rest [item]
  | more {item : Json} {items : List Json} {after further : List Char}
      (read : parseValue bound text = .ok (item, after))
      (comma : skipSpace after = ',' :: further)
      (readMore : parseItems bound (skipSpace further) = .ok (items, rest)) :
      ItemsStep bound text rest (item :: items)

/-- What a call of the reader of bindings has read: a name and a value, and a closing brace or more
bindings. -/
inductive BindingsStep (bound : Nat) (rest : List Char) :
    (text : List Char) → (bindings : List (String × Json)) → Prop
  | last {name quoted afterName afterColon after : List Char} {value : Json}
      (scanned : scanText ('"' :: quoted) quoted = .ok (name, afterName))
      (colon : skipSpace afterName = ':' :: afterColon)
      (read : parseValue bound (skipSpace afterColon) = .ok (value, after))
      (closed : skipSpace after = '\x7d' :: rest) :
      BindingsStep bound rest ('"' :: quoted) [(String.ofList name, value)]
  | more {name quoted afterName afterColon after further : List Char} {value : Json}
      {bindings : List (String × Json)}
      (scanned : scanText ('"' :: quoted) quoted = .ok (name, afterName))
      (colon : skipSpace afterName = ':' :: afterColon)
      (read : parseValue bound (skipSpace afterColon) = .ok (value, after))
      (comma : skipSpace after = ',' :: further)
      (readMore : parseBindings bound (skipSpace further) = .ok (bindings, rest)) :
      BindingsStep bound rest ('"' :: quoted) ((String.ofList name, value) :: bindings)

theorem valueStep_of_parseValue {bound : Nat} {text rest : List Char} {value : Json}
    (read : parseValue (bound + 1) text = .ok (value, rest)) : ValueStep bound rest text value := by
  rw [parseValue.eq_def] at read
  simp only at read
  split at read
  · split at read <;> cases read
    next scanned => exact .text scanned
  · split at read
    · next closed =>
      cases read
      exact .emptyList closed
    · split at read <;> cases read
      next items => exact .list items
  · split at read
    · next closed =>
      cases read
      exact .emptyObject closed
    · split at read <;> cases read
      next bindings => exact .object bindings
  · exact .scalar read

theorem itemsStep_of_parseItems {bound : Nat} {text rest : List Char} {items : List Json}
    (read : parseItems (bound + 1) text = .ok (items, rest)) : ItemsStep bound text rest items := by
  rw [parseItems.eq_def] at read
  simp only at read
  split at read
  · cases read
  · next item =>
    split at read
    · next closed =>
      cases read
      exact .last item closed
    · next comma =>
      split at read <;> cases read
      next more => exact .more item comma more
    · cases read

theorem bindingsStep_of_parseBindings {bound : Nat} {text rest : List Char}
    {bindings : List (String × Json)}
    (read : parseBindings (bound + 1) text = .ok (bindings, rest)) :
    BindingsStep bound rest text bindings := by
  rw [parseBindings.eq_def] at read
  simp only at read
  split at read
  · split at read
    · cases read
    · next scanned =>
      split at read
      · next colon =>
        split at read
        · cases read
        · next value =>
          split at read
          · next closed =>
            cases read
            exact .last scanned colon value closed
          · next comma =>
            split at read <;> cases read
            next more => exact .more scanned colon value comma more
          · cases read
      · cases read
  · cases read

/-- What is read from a whole text is read in one call, and nothing but space is left. -/
theorem exists_parseValue_of_parse {text : List Char} {value : Json}
    (read : parse text = .ok value) :
    ∃ bound rest, parseValue bound (skipSpace text) = .ok (value, rest) ∧ skipSpace rest = [] := by
  rw [parse] at read
  split_ifs at read
  split at read
  · cases read
  · next readValue =>
    split at read <;> cases read
    next nothing => exact ⟨_, _, readValue, nothing⟩

end Rulebook.Json
