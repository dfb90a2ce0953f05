import Rulebook.Console.Emoji
import Rulebook.Console.Literal
import Rulebook.Console.Style

/-!
# Printed text

Printed text may hold tags in square brackets that style what follows. A tag opens a style, and a
tag with a slash closes the one it names, or the last one; only the text between the tags appears.
A backslash before a tag makes it text. Names of emoji between colons become emoji within each piece
of text, and control characters that move the cursor do not appear.
-/

namespace Rulebook.Console

/-- A part of a text with tags. -/
inductive Part
  | text (value : List Char)
  | tag (content : List Char)
deriving DecidableEq, Repr, Inhabited

/-- Whether the character may follow the bracket that opens a tag. -/
def isTagStart (character : Char) : Bool :=
  ('a' ≤ character && character ≤ 'z') || character == '#' || character == '/' ||
    character == '@'

/-- The content of the tag whose opening bracket stands before a text. -/
def tagContent? (text : List Char) : Option (List Char) :=
  let isInside (character : Char) : Bool := character != ']' && character != '['
  let content := text.takeWhile isInside
  match content, text.dropWhile isInside with
  | first :: _, ']' :: _ => if isTagStart first then some content else none
  | _, _ => none

/-- A row of backslashes. -/
def backslashes (count : Nat) : List Char := List.replicate count '\\'

/-- The parts of a text after a piece of plain text. Of the text `taken` characters belong to a tag
that has been read, and before it `slashes` backslashes stand. Two backslashes before a tag are one,
and a last single one makes the tag text; before another bracket one backslash is dropped. -/
def partsAfter (plain : List Char) : (taken slashes : Nat) → List Char → List Part
  | _, slashes, [] => [.text (plain ++ backslashes slashes)]
  | taken + 1, slashes, _ :: rest => partsAfter plain taken slashes rest
  | 0, slashes, character :: rest =>
      if character = '\\' then partsAfter plain 0 (slashes + 1) rest
      else if character = '[' then
        match tagContent? rest with
        | some content =>
            let this := if slashes % 2 = 1 then .text ('[' :: content ++ [']']) else .tag content
            .text plain :: .text (backslashes (slashes / 2)) :: this ::
              partsAfter [] (content.length + 1) 0 rest
        | none => partsAfter (plain ++ backslashes (slashes - 1) ++ ['[']) 0 0 rest
      else partsAfter (plain ++ backslashes slashes ++ [character]) 0 0 rest

/-- The text taken apart into plain pieces and tags. -/
def parts (text : List Char) : List Part :=
  partsAfter [] 0 0 text

/-- A tag that has been opened and not yet closed. -/
structure OpenTag where
  name : List Char
  /-- What follows the name behind an equals sign. -/
  setting : Option (List Char)
deriving DecidableEq, Repr, Inhabited

/-- The values with which a handler is called: those in the brackets behind its name, and none for a
name alone. A text of another form stands for itself. -/
def handlerValues (setting : List Char) : List Char :=
  let isName (character : Char) : Bool := Literal.isNameChar character || character == '.'
  match setting.dropWhile isName with
  | [] => "()".toList
  | rest@('(' :: _) =>
      if rest.getLast? = some ')' ∧ !rest.contains '\n' then rest else setting
  | _ => setting

/-- Closes a tag. The values for a handler have to be literal. -/
def OpenTag.close (tag : OpenTag) : Except Failure Unit :=
  match tag.name, tag.setting with
  | '@' :: _, some setting =>
      let values := handlerValues (Text.trim setting)
      if setting.isEmpty || Literal.isLiteral values then .ok ()
      else .error (.unbalancedMarkup (String.ofList
        ("error parsing ".toList ++ Text.quoted setting)))
  | _, _ => .ok ()

/-- The tags that are open after another one, the last one first. -/
def applyTag (tags : List OpenTag) (content : List Char) : Except Failure (List OpenTag) :=
  let (name, setting) := Text.cutAt '=' content
  match name with
  | '/' :: closed =>
      let closed := Text.trim closed
      if closed.isEmpty then
        match tags with
        | [] => .error (.unbalancedMarkup "closing tag '[/]' has nothing to close")
        | tag :: rest => tag.close.map fun () => rest
      else
        match styleName closed with
        | .error failure => .error failure
        | .ok style =>
            match tags.find? fun tag => tag.name == style with
            | some tag => tag.close.map fun () => tags.eraseP fun tag => tag.name == style
            | none => .error (.unbalancedMarkup (String.ofList
                ("closing tag '[".toList ++ name ++ "]' doesn't match any open tag".toList)))
  | _ => (styleName name).map fun style => ⟨style, setting⟩ :: tags

/-- The character moves the cursor and does not appear. -/
def isHidden (character : Char) : Bool :=
  ['\x07', '\x08', '\x0b', '\x0c', '\r'].contains character

/-- The characters that the parts show, with these tags open before them. -/
def plainParts (tags : List OpenTag) : List Part → Except Failure (List Char)
  | [] => .ok []
  | .text value :: rest =>
      (plainParts tags rest).map fun after =>
        (replaceEmoji value).filter (fun character => !isHidden character) ++ after
  | .tag content :: rest =>
      match applyTag tags content with
      | .error failure => .error failure
      | .ok tags => plainParts tags rest

/-- The characters that a text with markup shows. -/
def plainText (text : List Char) : Except Failure (List Char) :=
  plainParts [] (parts text)

end Rulebook.Console
