import Rulebook.Console.EmojiTable
import Rulebook.Text.Blank
import Rulebook.Text.Case

/-!
# Emoji by name

In printed text a name between colons stands for an emoji. The name may ask for the look of the
emoji, as a sign in a text or as a picture. Colons around anything else stay as they are, and the
second one does not begin another name.
-/

namespace Rulebook.Console

/-- The look that may follow a name, and the selector that asks for it. -/
def emojiLooks : List (String × Char) := [("-emoji:", '\ufe0f'), ("-text:", '\ufe0e')]

/-- The name, the selector and the number of characters up to the colon that ends a name, given the
name so far in reverse order and its length. Blanks end the search. -/
def emojiName? (name : List Char) (length : Nat) :
    List Char → Option (List Char × List Char × Nat)
  | [] => none
  | character :: rest =>
      match emojiLooks.find? fun (look, _) => look.toList.isPrefixOf (character :: rest) with
      | some (look, variant) => some (name.reverse, [variant], length + look.length)
      | none =>
          if character = ':' then some (name.reverse, [], length + 1)
          else if Text.isBlank character then none
          else emojiName? (character :: name) (length + 1) rest

/-- A text with emoji for their names, after some characters that belong to a name that has been
replaced. -/
def replaceAfter : (taken : Nat) → List Char → List Char
  | _, [] => []
  | taken + 1, _ :: rest => replaceAfter taken rest
  | 0, character :: rest =>
      if character = ':' then
        match emojiName? [] 0 rest with
        | none => ':' :: replaceAfter 0 rest
        | some (name, variant, length) =>
            match emojiNames.lookup (String.ofList (Text.lower name)) with
            | some emoji => emoji.toList ++ variant ++ replaceAfter length rest
            | none => ':' :: rest.take length ++ replaceAfter length rest
      else character :: replaceAfter 0 rest

/-- The text with every name of an emoji between colons replaced by the emoji. -/
def replaceEmoji (text : List Char) : List Char :=
  replaceAfter 0 text

end Rulebook.Console
