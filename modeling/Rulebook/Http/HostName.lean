import Rulebook.Http.HostTable
import Rulebook.Text.Composition
import Rulebook.Text.Lines
import Rulebook.Text.Punycode
import Rulebook.Text.Quoted

/-!
# Host names in any script

A host name is a sequence of labels with points between them. A label with characters outside ASCII
is sent in its code: `xn--` and the Punycode of the label. `encode` writes a host name for sending
and `decode` reads it back; both refuse a label that breaks one of the rules for labels, which are
about its form, its hyphens, its characters and their neighbours, and the direction of writing.
The functions on labels work on code points.
-/

namespace Rulebook

/-- Why a text is no host name. -/
inductive HostFault
  | emptyDomain
  | emptyLabel
  | domainTooLong
  | labelTooLong
  | notComposed
  /-- The third and the fourth character are hyphens. -/
  | innerHyphens
  | outerHyphen
  | leadingMark
  | forbidden (code position : Nat) (label : List Nat)
  | misplaced (code position : Nat) (label : List Nat)
  /-- A joining character that does not stand where it may. -/
  | misplacedJoiner (code position : Nat) (label : List Nat)
  | undirected (label : List Nat)
  /-- A character does not go with the direction of the label. -/
  | wrongDirection (rightToLeft : Bool) (position : Nat)
  | mixedNumbers
  /-- The label ends with a character that cannot end it. -/
  | openEnd
  | emptyCode
  | codeEndsInHyphen
  | notCode
deriving DecidableEq, Repr, Inhabited

/-- How messages name a code point. -/
def HostFault.codeName (code : Nat) : List Char :=
  'U' :: '+' :: (Text.hexadecimal 4 code).map Char.toUpper

/-- The text of the fault. -/
def HostFault.message : HostFault → List Char
  | emptyDomain => "Empty domain".toList
  | emptyLabel => "Empty Label".toList
  | domainTooLong => "Domain too long".toList
  | labelTooLong => "Label too long".toList
  | notComposed => "Label must be in Normalization Form C".toList
  | innerHyphens => "Label has disallowed hyphens in 3rd and 4th position".toList
  | outerHyphen => "Label must not start or end with a hyphen".toList
  | leadingMark => "Label begins with an illegal combining character".toList
  | forbidden code position label => "Codepoint ".toList ++ codeName code ++
      " at position ".toList ++ Text.decimal position ++ " of ".toList ++
      Text.quotedCodes label ++ " not allowed".toList
  | misplaced code position label => "Codepoint ".toList ++ codeName code ++
      " not allowed at position ".toList ++ Text.decimal position ++ " in ".toList ++
      Text.quotedCodes label
  | misplacedJoiner code position label => "Unknown codepoint adjacent to joiner ".toList ++
      codeName code ++ " at position ".toList ++ Text.decimal position ++ " in ".toList ++
      Text.quotedCodes label
  | undirected label => "First codepoint in label ".toList ++ Text.quotedCodes label ++
      " must be directionality L, R or AL".toList
  | wrongDirection rightToLeft position => "Invalid direction for codepoint at position ".toList ++
      Text.decimal position ++
      (if rightToLeft then " in a right-to-left label" else " in a left-to-right label").toList
  | mixedNumbers => "Can not mix numeral types in a right-to-left label".toList
  | openEnd => "Label ends with illegal codepoint directionality".toList
  | emptyCode => "Malformed A-label, no Punycode eligible content found".toList
  | codeEndsInHyphen => "A-label must not end with a hyphen".toList
  | notCode => "Invalid A-label".toList

namespace HostName

open Text

/-- The code point lies in one of the ranges. -/
def holds (ranges : List (Nat × Nat)) (code : Nat) : Bool :=
  ranges.any fun (first, last) => first ≤ code && code ≤ last

/-- The direction in which a character is written; most are written from left to right. -/
def directionOf (code : Nat) : Direction :=
  match directionRanges.find? fun (first, last, _) => first ≤ code && code ≤ last with
  | some (_, _, direction) => direction
  | none => .leftToRight

/-- How a character joins its neighbours, if it does. -/
def joiningOf? (code : Nat) : Option Joining :=
  (joiningRanges.find? fun (first, last, _) => first ≤ code && code ≤ last).map (·.2.2)

/-- The class of the marks that silence the vowel of the letter before them. -/
def silencerClass : Nat := 9

/-- The first character that is not passed over joins in one of the given ways. -/
def joins (ways : List Joining) : List Nat → Bool
  | [] => false
  | code :: rest =>
      match joiningOf? code with
      | some .transparent => joins ways rest
      | some way => ways.contains way
      | none => false

/-- A joining character may stand between what is before it, in reverse order, and what is
after. -/
def joinerFits (code : Nat) (before after : List Nat) : Bool :=
  before.head?.any (markClass · == silencerClass) ||
    (code == 0x200C && joins [.toTheLeft, .both] before && joins [.toTheRight, .both] after)

/-- The digits of the Arabic script in their two forms. -/
def arabicDigits : List (Nat × Nat) := [(0x660, 0x669), (0x6F0, 0x6F9)]

/-- The code points that need a certain neighbourhood. -/
def contextRanges : List (Nat × Nat) :=
  [(0xB7, 0xB7), (0x375, 0x375), (0x5F3, 0x5F4), (0x30FB, 0x30FB)] ++ arabicDigits

/-- A character may stand between what is before it, in reverse order, and what is after: a middle
dot between two letters l, some Greek and Hebrew signs beside a letter of their script, a Japanese
dot in a label with a Japanese letter, and digits of one Arabic form in a label without the
other. -/
def contextFits (code : Nat) (before after : List Nat) : Bool :=
  if code = 0xB7 then before.head? == some 0x6C && after.head? == some 0x6C
  else if code = 0x375 then after.head?.any (holds greekRanges)
  else if code = 0x5F3 ∨ code = 0x5F4 then before.head?.any (holds hebrewRanges)
  else if code = 0x30FB then
    (before ++ after).any fun other => other != 0x30FB && holds japaneseRanges other
  else arabicDigits.all fun (first, last) =>
    (first ≤ code && code ≤ last) ||
      !(before ++ after).any fun other => first ≤ other && other ≤ last

/-- Checks the characters of a label, given those before in reverse order. -/
def checkCodes (label before : List Nat) : List Nat → Except HostFault Unit
  | [] => .ok ()
  | code :: after =>
      let position := before.length + 1
      if holds labelRanges code then checkCodes label (code :: before) after
      else if code = 0x200C ∨ code = 0x200D then
        if joinerFits code before after then checkCodes label (code :: before) after
        else .error (.misplacedJoiner code position label)
      else if holds contextRanges code then
        if contextFits code before after then checkCodes label (code :: before) after
        else .error (.misplaced code position label)
      else .error (.forbidden code position label)

/-- What is known of a label while its directions are checked: whether it may end here, and which
kind of number it holds. -/
structure DirectionState where
  /-- The label may end here. -/
  canEnd : Bool
  number : Option Direction

/-- Checks one character of a label that is written from right to left. -/
def checkLeftward (state : DirectionState) (direction : Direction) (position : Nat) :
    Except HostFault DirectionState :=
  match direction with
  | .leftToRight => .error (.wrongDirection true position)
  | .rightToLeft | .arabicLetter => .ok { state with canEnd := true }
  | .arabicNumber | .europeanNumber =>
      if state.number.all (· == direction) then .ok ⟨true, some direction⟩
      else .error .mixedNumbers
  | .neutral => .ok { state with canEnd := false }
  | .mark => .ok state

/-- Checks one character of a label that is written from left to right. -/
def checkRightward (state : DirectionState) (direction : Direction) (position : Nat) :
    Except HostFault DirectionState :=
  match direction with
  | .rightToLeft | .arabicLetter | .arabicNumber => .error (.wrongDirection false position)
  | .leftToRight | .europeanNumber => .ok { state with canEnd := true }
  | .neutral => .ok { state with canEnd := false }
  | .mark => .ok state

/-- Checks the directions of a label in which something is written from right to left. -/
def checkDirections (label : List Nat) : Except HostFault Unit :=
  let directions := label.map directionOf
  let isLeftward (direction : Direction) : Bool :=
    direction == .rightToLeft || direction == .arabicLetter || direction == .arabicNumber
  if !directions.any isLeftward then .ok ()
  else
    let run (check : DirectionState → Direction → Nat → Except HostFault DirectionState) :
        Except HostFault Unit :=
      match directions.zipIdx.foldlM (fun state (direction, index) =>
          check state direction (index + 1)) (⟨false, none⟩ : DirectionState) with
      | .error fault => .error fault
      | .ok state => if state.canEnd then .ok () else .error .openEnd
    match directions.head? with
    | some .rightToLeft | some .arabicLetter => run checkLeftward
    | some .leftToRight => run checkRightward
    | _ => .error (.undirected label)

/-- The rules for a label, from its form to the direction of its characters. -/
def checkLabel (label : List Nat) : Except HostFault Unit :=
  if label.isEmpty then .error .emptyLabel
  else if composed label ≠ label then .error .notComposed
  else if (label.drop 2).take 2 = [0x2D, 0x2D] then .error .innerHyphens
  else if label.head? = some 0x2D ∨ label.getLast? = some 0x2D then .error .outerHyphen
  else if label.head?.any (holds markRanges) then .error .leadingMark
  else match checkCodes label [] label with
    | .error fault => .error fault
    | .ok () => checkDirections label

/-- What stands before the Punycode of a label. -/
def codeStart : List Nat := "xn--".toList.map Char.toNat

/-- Reads a label that may be in its code. -/
def decodeLabel (label : List Nat) : Except HostFault (List Nat) :=
  let lower := label.map fun code => if 0x41 ≤ code ∧ code ≤ 0x5A then code + 0x20 else code
  if lower.any (0x80 ≤ ·) then (checkLabel label).map fun () => label
  else if !codeStart.isPrefixOf lower then (checkLabel lower).map fun () => lower
  else
    let code := lower.drop codeStart.length
    if code.isEmpty then .error .emptyCode
    else if code.getLast? = some 0x2D then .error .codeEndsInHyphen
    else match Punycode.decode? code with
      | none => .error .notCode
      | some label => (checkLabel label).map fun () => label

/-- The most characters of a label in its code. -/
def maxLabelLength : Nat := 63

/-- Writes a label in its code if it needs one. -/
def encodeLabel (label : List Nat) : Except HostFault (List Nat) :=
  let bounded (code : List Nat) : Except HostFault (List Nat) :=
    if maxLabelLength < code.length then .error .labelTooLong else .ok code
  if label.any (0x80 ≤ ·) then
    match checkLabel label with
    | .error fault => .error fault
    | .ok () => bounded (codeStart ++ Punycode.encode label)
  else match decodeLabel label with
    | .error fault => .error fault
    | .ok _ => bounded label

/-- The character stands between labels. -/
def isPoint (character : Char) : Bool :=
  ['.', '\u3002', '\uFF0E', '\uFF61'].contains character

/-- The labels of a host name, and whether a point ends it. -/
def labelsOf (name : List Char) : List (List Nat) × Bool :=
  let labels := (splitAt '.' (name.map fun character =>
    if isPoint character then '.' else character)).map fun label => label.map Char.toNat
  if labels.getLast? = some [] then (labels.dropLast, true) else (labels, false)

/-- The labels with points between them, and one at the end where there was one. -/
def joined (labels : List (List Nat)) (pointAtEnd : Bool) : List Char :=
  join ['.'] ((labels.map fun label => label.map Char.ofNat) ++ if pointAtEnd then [[]] else [])

/-- The most characters of a host name without the point at its end. -/
def maxLength : Nat := 253

/-- The host name as it is sent. -/
def encode (name : List Char) : Except HostFault (List Char) :=
  let (labels, pointAtEnd) := labelsOf name
  if name.isEmpty then .error .emptyDomain
  else match labels.mapM encodeLabel with
    | .error fault => .error fault
    | .ok codes =>
        let text := joined codes pointAtEnd
        if (if pointAtEnd then maxLength + 1 else maxLength) < text.length then
          .error .domainTooLong
        else .ok text

/-- The host name as it is shown. -/
def decode (name : List Char) : Except HostFault (List Char) :=
  let (labels, pointAtEnd) := labelsOf name
  if maxLength + 1 < name.length then .error .domainTooLong
  else if name.isEmpty then .error .emptyDomain
  else (labels.mapM decodeLabel).map fun labels => joined labels pointAtEnd

end HostName

end Rulebook
