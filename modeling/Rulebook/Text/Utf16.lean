import Rulebook.Text.Reader
import Rulebook.Text.Utf8

/-!
# UTF-16 and UTF-32

The Unicode encodings whose units are two or four bytes, in either order of the bytes, and UTF-8 in
the same terms. Half a pair of units and a unit that is no code point are broken pieces, and so are
the bytes that are left over at the end.
-/

namespace Rulebook.Text

/-- The order of the bytes in a unit. -/
inductive ByteOrder
  | bigEndian
  | littleEndian
deriving DecidableEq, Repr, Inhabited

/-- The unit that two bytes form. -/
def unitOf (order : ByteOrder) (first second : UInt8) : Nat :=
  match order with
  | .bigEndian => first.toNat * 0x100 + second.toNat
  | .littleEndian => second.toNat * 0x100 + first.toNat

/-- The units of two bytes each, and whether a byte is left over. -/
def unitsOf (order : ByteOrder) : List UInt8 → List Nat × Bool
  | [] => ([], false)
  | [_] => ([], true)
  | first :: second :: rest =>
      let (units, extra) := unitsOf order rest
      (unitOf order first second :: units, extra)

/-- The characters of UTF-16 units; half a pair is a broken piece. -/
def utf16Pieces : List Nat → List Piece
  | [] => []
  | [unit] => [if 0xD800 ≤ unit ∧ unit < 0xE000 then none else some (Char.ofNat unit)]
  | unit :: next :: rest =>
      if 0xD800 ≤ unit ∧ unit < 0xDC00 then
        if 0xDC00 ≤ next ∧ next < 0xE000 then
          some (Char.ofNat (0x10000 + (unit - 0xD800) * 0x400 + (next - 0xDC00))) ::
            utf16Pieces rest
        else none :: utf16Pieces (next :: rest)
      else if 0xDC00 ≤ unit ∧ unit < 0xE000 then none :: utf16Pieces (next :: rest)
      else some (Char.ofNat unit) :: utf16Pieces (next :: rest)

/-- The unit is the first half of a pair. -/
def isLeadUnit (unit : Nat) : Bool :=
  0xD800 ≤ unit && unit < 0xDC00

/-- The pieces of bytes in UTF-16; a byte left over is a broken piece, together with half a pair
before it. -/
def piecesOfUtf16 (order : ByteOrder) (bytes : List UInt8) : List Piece :=
  let (units, extra) := unitsOf order bytes
  utf16Pieces units ++ if extra && !units.getLast?.any isLeadUnit then [none] else []

/-- The code that four bytes form. -/
def codeOf (order : ByteOrder) (a b c d : UInt8) : Nat :=
  match order with
  | .bigEndian => unitOf order a b * 0x10000 + unitOf order c d
  | .littleEndian => unitOf order c d * 0x10000 + unitOf order a b

/-- The pieces of bytes in UTF-32; bytes left over are one broken piece. -/
def piecesOfUtf32 (order : ByteOrder) : List UInt8 → List Piece
  | [] => []
  | a :: b :: c :: d :: rest =>
      let code := codeOf order a b c d
      (if code < 0x110000 ∧ ¬(0xD800 ≤ code ∧ code < 0xE000) then some (Char.ofNat code)
        else none) :: piecesOfUtf32 order rest
  | _ => [none]

/-- The pieces of a text in UTF-8. -/
def piecesOfUtf8 (bytes : List UInt8) : List Piece :=
  (utf8Pieces bytes).map fun (piece, _) =>
    match piece with
    | .ok character => some character
    | .error _ => none

end Rulebook.Text
