import Rulebook.Console.ColourTable
import Rulebook.Failure
import Rulebook.Text.Blank
import Rulebook.Text.Case
import Rulebook.Text.Digit
import Rulebook.Text.Lines

/-!
# Styles

A style is named by words: attributes such as `bold`, each perhaps behind `not`, the name of a
colour, another colour behind `on`, and an address behind `link`. Two definitions name the same
style when they agree but for the order of the words and short names; `Style.name` is the one name
that they share. A definition that is no style keeps its own words as its name.
-/

namespace Rulebook.Console

/-- The attributes, in the order in which a style names them. -/
def attributeNames : List String :=
  ["bold", "dim", "italic", "underline", "blink", "blink2", "reverse", "conceal", "strike",
    "underline2", "frame", "encircle", "overline"]

/-- The attributes that may be given by a short name. -/
def attributeShortNames : List (String × String) :=
  [("b", "bold"), ("d", "dim"), ("i", "italic"), ("u", "underline"), ("r", "reverse"),
    ("c", "conceal"), ("s", "strike"), ("uu", "underline2"), ("o", "overline")]

/-- The attribute that a word names. -/
def attribute? (word : List Char) : Option String :=
  let word := String.ofList word
  (attributeShortNames.lookup word).or (if attributeNames.contains word then some word else none)

/-- How text is shown. -/
structure Style where
  /-- The attributes that are set or, by `not`, taken away. -/
  attributes : List (String × Bool) := []
  colour : Option (List Char) := none
  /-- The colour behind the text. -/
  ground : Option (List Char) := none
  link : Option (List Char) := none
deriving DecidableEq, Repr, Inhabited

/-- Why words give no style. -/
inductive StyleFault
  /-- They name no style. -/
  | unknown
  | notNumber (text : List Char)
deriving DecidableEq, Repr, Inhabited

/-- The number written as one part of a colour. -/
def colourPart (digits : List Char) : Except StyleFault Nat :=
  match digits.mapM Text.digitValue? with
  | some values =>
      if digits.isEmpty then .error (.notNumber digits)
      else .ok (Text.numberOfDigits values)
  | none => .error .unknown

/-- The part of a word between a head and the closing bracket at its end. -/
def bracketed? (head : String) (word : List Char) : Option (List Char) :=
  if head.toList.isPrefixOf word && word.getLast? == some ')' then
    some ((word.drop head.length).dropLast)
  else none

/-- The colour that a word names: by name, by number or by its parts. -/
def readColour (word : List Char) : Except StyleFault (List Char) :=
  let name := Text.lower word
  let known : Except StyleFault (List Char) := .ok name
  if name = "default".toList ∨ colourNames.contains (String.ofList name) then known
  else match name with
    | '#' :: digits =>
        if digits.length = 6 ∧ digits.all (Text.hexValue? · |>.isSome) then known
        else .error .unknown
    | _ =>
        match bracketed? "color(" name, bracketed? "rgb(" name with
        | some digits, _ =>
            let number := Text.numberOfDigits (digits.map fun digit => digit.toNat - 0x30)
            let isShort := 1 ≤ digits.length && digits.length ≤ 3
            if isShort ∧ digits.all Char.isDigit ∧ number < 256 then known
            else .error .unknown
        | none, some text =>
            let isPart (character : Char) : Bool :=
              character == ',' || (Text.digitValue? character).isSome
            match Text.splitAt ',' text with
            | [red, green, blue] =>
                if text.all isPart then
                  match colourPart red, colourPart green, colourPart blue with
                  | .ok red, .ok green, .ok blue =>
                      if red < 256 ∧ green < 256 ∧ blue < 256 then known else .error .unknown
                  | .error fault, _, _ | _, .error fault, _ | _, _, .error fault => .error fault
                else .error .unknown
            | _ => .error .unknown
        | none, none => .error .unknown

namespace Style

/-- The style with one attribute set or taken away. -/
def withAttribute (style : Style) (name : String) (value : Bool) : Style :=
  { style with attributes := (name, value) :: style.attributes.filter (·.1 != name) }

/-- The style that the words add to the one before them. -/
def parseWords (style : Style) : List (List Char) → Except StyleFault Style
  | [] => .ok style
  | word :: rest =>
      let plain := Text.lower word
      if plain = "on".toList then
        match rest with
        | [] => .error .unknown
        | next :: later =>
            match readColour next with
            | .error fault => .error fault
            | .ok name => parseWords { style with ground := some name } later
      else if plain = "not".toList then
        match rest with
        | [] => .error .unknown
        | next :: later =>
            match attribute? next with
            | none => .error .unknown
            | some name => parseWords (style.withAttribute name false) later
      else if plain = "link".toList then
        match rest with
        | [] => .error .unknown
        | next :: later => parseWords { style with link := some next } later
      else match attribute? plain with
        | some name => parseWords (style.withAttribute name true) rest
        | none =>
            match readColour plain with
            | .error fault => .error fault
            | .ok name => parseWords { style with colour := some name } rest

/-- The words of a text, between blanks. -/
def words (text : List Char) : List (List Char) :=
  let spaced := text.map fun character => if Text.isBlank character then ' ' else character
  (Text.splitAt ' ' spaced).filter fun word => !word.isEmpty

/-- The style that a definition gives; the word `none` is the empty one. -/
def parse (definition : List Char) : Except StyleFault Style :=
  if Text.trim definition = "none".toList then .ok {} else parseWords {} (words definition)

/-- The style written out in a fixed order. -/
def name (style : Style) : List Char :=
  let attributes := attributeNames.filterMap fun name =>
    (style.attributes.lookup name).map fun value =>
      (if value then name else "not " ++ name).toList
  let parts := attributes ++ style.colour.toList ++
    (style.ground.map fun ground => "on ".toList ++ ground).toList ++
    (style.link.map fun link => "link ".toList ++ link).toList
  if parts.isEmpty then "none".toList else Text.join [' '] parts

end Style

/-- What a definition is reduced to: its style written out, or its own text where it gives none. -/
def styleName (definition : List Char) : Except Failure (List Char) :=
  match Style.parse definition with
  | .ok style => .ok style.name
  | .error .unknown => .ok (Text.lower (Text.trim definition))
  | .error (.notNumber text) => .error (.notNumber (String.ofList text))

end Rulebook.Console
