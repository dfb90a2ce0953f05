import Rulebook.Text.Digit

/-!
# UTF-8

Texts travel as UTF-8. Encoding works character by character. Decoding works piece by piece: each
piece is a character or the longest run of bytes that begins like a character and breaks off. A
lossy reader puts a replacement character for every broken piece, a strict reader stops at the
first one and reports where and why.
-/

namespace Rulebook.Text

/-- The bytes of a character in UTF-8. -/
def utf8Char (character : Char) : List UInt8 :=
  let code := character.toNat
  if code < 0x80 then [UInt8.ofNat code]
  else if code < 0x800 then
    [UInt8.ofNat (0xC0 + code / 0x40), UInt8.ofNat (0x80 + code % 0x40)]
  else if code < 0x10000 then
    [UInt8.ofNat (0xE0 + code / 0x1000), UInt8.ofNat (0x80 + code / 0x40 % 0x40),
      UInt8.ofNat (0x80 + code % 0x40)]
  else
    [UInt8.ofNat (0xF0 + code / 0x40000), UInt8.ofNat (0x80 + code / 0x1000 % 0x40),
      UInt8.ofNat (0x80 + code / 0x40 % 0x40), UInt8.ofNat (0x80 + code % 0x40)]

/-- The bytes of a text in UTF-8. -/
def utf8 (text : List Char) : List UInt8 :=
  text.flatMap utf8Char

/-- Why a piece is no character. -/
inductive Utf8Fault
  | startByte
  /-- A byte inside a character is out of its range. -/
  | continuationByte
  /-- The bytes end inside a character. -/
  | endOfData
deriving DecidableEq, Repr, Inhabited

/-- How a message words the fault. -/
def Utf8Fault.wording : Utf8Fault → String
  | startByte => "invalid start byte"
  | continuationByte => "invalid continuation byte"
  | endOfData => "unexpected end of data"

/-- The number of further bytes that a first byte calls for, and the range of the second byte. -/
def utf8Lead? (first : Nat) : Option (Nat × Nat × Nat) :=
  if first < 0xC2 then none
  else if first < 0xE0 then some (1, 0x80, 0xBF)
  else if first = 0xE0 then some (2, 0xA0, 0xBF)
  else if first = 0xED then some (2, 0x80, 0x9F)
  else if first < 0xF0 then some (2, 0x80, 0xBF)
  else if first = 0xF0 then some (3, 0x90, 0xBF)
  else if first < 0xF4 then some (3, 0x80, 0xBF)
  else if first = 0xF4 then some (3, 0x80, 0x8F)
  else none

/-- Reads `due` further bytes, the next of which has the given range, onto the bits read so far.
The second component counts the bytes that were in range. -/
def utf8Rest (code : Nat) : (due low high : Nat) → List UInt8 → Except Utf8Fault Nat × Nat
  | 0, _, _, _ => (.ok code, 0)
  | _ + 1, _, _, [] => (.error .endOfData, 0)
  | due + 1, low, high, byte :: rest =>
      if low ≤ byte.toNat ∧ byte.toNat ≤ high then
        let (result, taken) := utf8Rest (code * 0x40 + byte.toNat % 0x40) due 0x80 0xBF rest
        (result, taken + 1)
      else (.error .continuationByte, 0)

/-- The piece that begins with a byte: its character or fault, and how many further bytes belong
to it. -/
def utf8Piece (first : UInt8) (rest : List UInt8) : Except Utf8Fault Char × Nat :=
  let code := first.toNat
  if code < 0x80 then (.ok (Char.ofNat code), 0)
  else match utf8Lead? code with
    | none => (.error .startByte, 0)
    | some (due, low, high) =>
        let (result, taken) := utf8Rest (code % Nat.pow 2 (6 - due)) due low high rest
        (result.map Char.ofNat, taken)

/-- The pieces of a sequence of bytes, each with its length. -/
def utf8Pieces : List UInt8 → List (Except Utf8Fault Char × Nat)
  | [] => []
  | first :: rest =>
      let piece := utf8Piece first rest
      (piece.1, piece.2 + 1) :: utf8Pieces (rest.drop piece.2)
termination_by bytes => bytes.length
decreasing_by simp only [List.length_drop, List.length_cons]; omega

/-- Reads bytes as a text, with a replacement character for every broken piece. -/
def utf8Lossy (bytes : List UInt8) : List Char :=
  (utf8Pieces bytes).map fun (piece, _) =>
    match piece with
    | .ok character => character
    | .error _ => '\uFFFD'

/-- The characters of whole pieces; a broken piece is reported by its position, length and
fault. -/
def wholePieces (position : Nat) :
    List (Except Utf8Fault Char × Nat) → Except (Nat × Nat × Utf8Fault) (List Char)
  | [] => .ok []
  | (.ok character, length) :: rest =>
      match wholePieces (position + length) rest with
      | .ok characters => .ok (character :: characters)
      | .error fault => .error fault
  | (.error fault, length) :: _ => .error (position, length, fault)

/-- Reads bytes as a text. The first broken piece is reported by its position, length and
fault. -/
def utf8Strict (bytes : List UInt8) : Except (Nat × Nat × Utf8Fault) (List Char) :=
  wholePieces 0 (utf8Pieces bytes)

/-- The text of a fault in the bytes at a position. -/
def utf8FaultMessage (bytes : List UInt8) (position length : Nat) (fault : Utf8Fault) :
    List Char :=
  let place :=
    if length = 1 then
      "byte 0x".toList ++ hexadecimal 2 ((bytes[position]?).map UInt8.toNat |>.getD 0) ++
        " in position ".toList ++ decimal position
    else
      "bytes in position ".toList ++ decimal position ++ '-' :: decimal (position + length - 1)
  "'utf-8' codec can't decode ".toList ++ place ++ ": ".toList ++ fault.wording.toList

end Rulebook.Text
