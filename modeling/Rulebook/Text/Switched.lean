import Rulebook.Text.MultiByte

/-!
# Character sets that a text switches

A text in ISO 2022 names by escape sequences the sets in which its bytes are to be read: one set in
use, one for text between shift signs, and one for a single character behind a sign of its own. The
variants differ in the sets that they allow. In the Chinese variant HZ a tilde switches.
-/

namespace Rulebook.Text

/-- A set that an escape sequence may name. -/
inductive CodeSet
  | ascii
  | latin
  /-- The upper half of the Greek set. -/
  | greek
  /-- ASCII with the sign of the yen and an overline. -/
  | roman
  /-- Half-width Japanese letters. -/
  | katakana
  | gb2312
  | jis0208
  | jis0208First
  | jis0212
  | jis0213 ( is2004 : Bool)
  | jis0213Second
  | ks1001
deriving DecidableEq, Repr, Inhabited

namespace CodeSet

/-- The byte that ends the sequence of a set, and whether the set takes two bytes. -/
def mark : CodeSet → UInt8 × Bool
  | ascii => (0x42, false)
  | latin => (0x41, false)
  | greek => (0x46, false)
  | roman => (0x4A, false)
  | katakana => (0x49, false)
  | gb2312 => (0x41, true)
  | jis0208 => (0x42, true)
  | jis0208First => (0x40, true)
  | jis0212 => (0x44, true)
  | jis0213 false => (0x4F, true)
  | jis0213 true => (0x51, true)
  | jis0213Second => (0x50, true)
  | ks1001 => (0x43, true)

/-- The set takes two bytes for a character. -/
def isDouble (set : CodeSet) : Bool := set.mark.2

/-- The characters of one byte; the sets of two bytes and the upper halves have none. -/
def singleChar? (set : CodeSet) (byte : Nat) : Option Char :=
  match set with
  | ascii => some (Char.ofNat byte)
  | roman =>
      if byte = 0x5C then some '¥' else if byte = 0x7E then some '‾' else some (Char.ofNat byte)
  | katakana => halfWidth? (byte + 0x80)
  | _ => none

/-- The characters of two bytes. -/
def doubleText? (set : CodeSet) (row column : Nat) : Option (List Char) :=
  match set with
  | gb2312 => (gb2312Rows.inGrid? row column).map ([·])
  | jis0208 | jis0208First => (jis0208Rows.inGrid? row column).map ([·])
  | jis0212 => (jis0212Rows.inGrid? row column).map ([·])
  | jis0213 is2004 =>
      if row = 0x22 ∧ column = 0x32 then some ['~']
      else if !is2004 && newPlaces.contains (row, column) then none
      else plane1Text? row column
  | jis0213Second => (plane2Char? true row column).map ([·])
  | ks1001 => (ks1001Rows.inGrid? row column).map ([·])
  | _ => none

end CodeSet

/-- The Greek sign or letter of a byte of the upper half. -/
def greekChar? (byte : Nat) : Option Char :=
  if byte < 0xA0 ∨ [0xA0, 0xA3, 0xA6, 0xA7, 0xA8, 0xA9, 0xAB, 0xAC, 0xAD, 0xB0, 0xB1, 0xB2, 0xB3,
      0xB7, 0xBB, 0xBD].contains byte then some (Char.ofNat byte)
  else if byte = 0xA1 then some '‘'
  else if byte = 0xA2 then some '’'
  else if byte = 0xAF then some '―'
  else if 0xB4 ≤ byte ∧ byte ≤ 0xFE ∧ byte ≠ 0xD2 then some (Char.ofNat (0x2D0 + byte))
  else none

/-- What a variant of ISO 2022 allows. -/
structure Variant where
  /-- The sets that a text may name beside ASCII. -/
  sets : List CodeSet
  hasShift : Bool := false
  /-- A sign may take one character from a set of its own. -/
  hasSingle : Bool := false
  /-- A sequence may announce a revised edition of a set. -/
  hasRevision : Bool := true
deriving DecidableEq, Repr, Inhabited

/-- The sets in use within a text. -/
structure SwitchState where
  plain : CodeSet := .ascii
  shifted : CodeSet := .ascii
  single : CodeSet := .ascii
  /-- The text is between the shift signs. -/
  isShifted : Bool := false
  /-- The text is in a sequence that means nothing here, which is passed on. -/
  isForeign : Bool := false
deriving DecidableEq, Repr, Inhabited

/-- The byte ends an escape sequence. -/
def isEscapeEnd (byte : UInt8) : Bool := 0x40 ≤ byte && byte ≤ 0x5A

/-- Where an escape sequence ends. -/
inductive EscapeEnd
  | at (place : Nat)
  | beyond
  /-- It does not end within sixteen bytes. -/
  | never
deriving DecidableEq, Repr, Inhabited

/-- Where an escape sequence ends, from a place on. The announcement of a revised edition is passed
over together with the byte behind it. -/
def escapeEnd ( hasRevision : Bool) : (place skipped : Nat) → List UInt8 → EscapeEnd
  | place, skipped, [] => if 16 ≤ place + skipped then .never else .beyond
  | place, skipped + 1, _ :: rest => escapeEnd hasRevision (place + 1) skipped rest
  | place, 0, byte :: rest =>
      if 16 ≤ place then .never
      else if isEscapeEnd byte then .at place
      else if hasRevision && byte == 0x26 && rest.head? == some 0x40 then
        escapeEnd hasRevision (place + 1) 2 rest
      else escapeEnd hasRevision (place + 1) 0 rest

namespace Variant

/-- The set that the end of a sequence names, if the variant has it. -/
def set? (variant : Variant) (mark : UInt8) ( isDouble : Bool) : Option CodeSet :=
  (CodeSet.ascii :: variant.sets).find? fun set => set.mark == (mark, isDouble)

/-- The state after an escape sequence, given without its first byte. -/
def switch? (variant : Variant) (state : SwitchState) : List UInt8 → Option SwitchState
  | [0x24, mark] => (variant.set? mark true).map fun set => { state with plain := set }
  | [0x28, mark] => (variant.set? mark false).map fun set => { state with plain := set }
  | [0x29, mark] => (variant.set? mark false).map fun set => { state with shifted := set }
  | [0x2E, mark] =>
      if variant.hasSingle then
        (variant.set? mark false).map fun set => { state with single := set }
      else none
  | [0x24, 0x28, mark] => (variant.set? mark true).map fun set => { state with plain := set }
  | [0x24, 0x29, mark] => (variant.set? mark true).map fun set => { state with shifted := set }
  | [_, _, 0x1B, 0x24, 0x42] =>
      if variant.hasRevision then
        (variant.set? 0x42 true).map fun set => { state with plain := set }
      else none
  | _ => none

/-- Reads an escape sequence, which switches a set if the variant has it. -/
def readEscape (variant : Variant) (state : SwitchState) (rest : List UInt8) :
    Reading SwitchState :=
  match escapeEnd variant.hasRevision 1 0 rest with
  | .beyond => .unfinished
  | .never => .broken 0 state
  | .at place =>
      match variant.switch? state (rest.take place) with
      | some state => .characters [] place state
      | none => .broken place state

/-- Reads the one character behind the sign for it. -/
def readSingle (state : SwitchState) (byte : UInt8) : Reading SwitchState :=
  match state.single with
  | .latin =>
      if byte < 0x80 then .characters [Char.ofNat (byte.toNat + 0x80)] 2 state
      else .broken 2 state
  | .greek =>
      match greekChar? ((byte.toNat + 0x80) % 0x100) with
      | some character => .characters [character] 2 state
      | none => .broken 2 state
  | .ascii =>
      if byte < 0x80 then .characters [Char.ofNat byte.toNat] 2 state else .broken 2 state
  | _ => .lawless

/-- Reads a character of a set. -/
def readChar (set : CodeSet) (state : SwitchState) (first : UInt8) (rest : List UInt8) :
    Reading SwitchState :=
  if set.isDouble then
    match rest with
    | [] => .unfinished
    | second :: _ =>
        match set.doubleText? first.toNat second.toNat with
        | some text => .characters text 1 state
        | none => .broken 1 state
  else .orBroken ((set.singleChar? first.toNat).map ([·])) 0 state

/-- What the bytes in front of a text amount to. -/
def read (variant : Variant) : Reader SwitchState := fun state first rest =>
  if state.isForeign then
    .single (Char.ofNat first.toNat) { state with isForeign := !isEscapeEnd first }
  else if first = 0x1B then
    match rest with
    | [] => .unfinished
    | second :: others =>
        if [0x24, 0x26, 0x28, 0x29, 0x2E].contains second then variant.readEscape state rest
        else if variant.hasSingle && second == 0x4E then
          match others with
          | [] => .unfinished
          | byte :: _ => readSingle state byte
        else .single '\x1b' { state with isForeign := true }
  else if first = 0x0A then .single '\n' { state with isShifted := false }
  else if variant.hasShift && (first == 0x0E || first == 0x0F) then
    .characters [] 0 { state with isShifted := first == 0x0E }
  else if first < 0x20 then .single (Char.ofNat first.toNat) state
  else if 0x80 ≤ first then .broken 0 state
  else readChar (if state.isShifted then state.shifted else state.plain) state first rest

end Variant

/-- The Japanese variant of the first edition. -/
def iso2022Jp : Variant := { sets := [.jis0208, .roman, .jis0208First] }

/-- The Japanese variant with the supplementary set. -/
def iso2022Jp1 : Variant := { sets := [.jis0208, .jis0212, .roman, .jis0208First] }

/-- The Japanese variant for several languages. -/
def iso2022Jp2 : Variant where
  sets := [.jis0208, .jis0212, .ks1001, .gb2312, .roman, .jis0208First, .latin, .greek]
  hasSingle := true

/-- The Japanese variant with the extended set. -/
def iso2022Jp3 : Variant := { sets := [.jis0213 false, .jis0208, .jis0213Second] }

/-- The Japanese variant with the extended set in the edition of 2004. -/
def iso2022Jp2004 : Variant := { sets := [.jis0213 true, .jis0208, .jis0213Second] }

/-- The Japanese variant with half-width letters. -/
def iso2022JpExt : Variant :=
  { sets := [.jis0208, .jis0212, .roman, .katakana, .jis0208First] }

/-- The Korean variant. -/
def iso2022Kr : Variant where
  sets := [.ks1001]
  hasShift := true
  hasRevision := false

/-- What the bytes in front of a text in HZ amount to; the state says whether the text is in Chinese
characters. -/
def readHz : Reader Bool := fun isChinese first rest =>
  if first = 0x7E then
    match rest with
    | [] => .unfinished
    | second :: _ =>
        if isChinese then
          if second = 0x7D then .characters [] 1 false else .broken 0 isChinese
        else if second = 0x7E then .characters ['~'] 1 false
        else if second = 0x7B then .characters [] 1 true
        else if second = 0x0A then .characters [] 1 false
        else .broken 0 isChinese
  else if 0x80 ≤ first then .broken 0 isChinese
  else if isChinese then
    match rest with
    | [] => .unfinished
    | second :: _ =>
        .orBroken ((gb2312Rows.inGrid? first.toNat second.toNat).map ([·])) 1 isChinese
  else .single (Char.ofNat first.toNat) isChinese

end Rulebook.Text
