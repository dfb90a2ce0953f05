import Rulebook.Text.Reader

/-!
# UTF-7

In UTF-7 a plus sign begins a section in which letters, digits and two signs carry six bits each;
the bits form UTF-16 units. A hyphen ends a section and is dropped, and any other character ends it
and stays. The bits that are left over at the end have to be zero.
-/

namespace Rulebook.Text

/-- The six bits that a character of Base64 stands for. -/
def sixBits? (byte : UInt8) : Option Nat :=
  let code := byte.toNat
  if 0x41 ≤ code ∧ code ≤ 0x5A then some (code - 0x41)
  else if 0x61 ≤ code ∧ code ≤ 0x7A then some (code - 0x61 + 26)
  else if 0x30 ≤ code ∧ code ≤ 0x39 then some (code - 0x30 + 52)
  else if code = 0x2B then some 62
  else if code = 0x2F then some 63
  else none

/-- What is known within a section. -/
structure Section where
  /-- How many bits are not used up. -/
  bits : Nat := 0
  value : Nat := 0
  /-- The first half of a pair whose second half is due. -/
  lead : Option Nat := none
deriving DecidableEq, Repr, Inhabited

namespace Section

/-- The section may end here: no bits of a character are left. -/
def isClean (open_ : Section) : Bool := open_.bits < 6 && open_.value == 0

/-- The pieces that a unit completes, and the first half of a pair that it begins. Half a pair on
its own is broken. -/
def take (lead : Option Nat) (unit : Nat) : List Piece × Option Nat :=
  let alone : List Piece × Option Nat :=
    if 0xD800 ≤ unit ∧ unit < 0xDC00 then ([], some unit)
    else if 0xDC00 ≤ unit ∧ unit < 0xE000 then ([none], none)
    else ([some (Char.ofNat unit)], none)
  match lead with
  | none => alone
  | some half =>
      if 0xDC00 ≤ unit ∧ unit < 0xE000 then
        ([some (Char.ofNat (0x10000 + (half - 0xD800) * 0x400 + (unit - 0xDC00)))], none)
      else (none :: alone.1, alone.2)

/-- The section after six more bits, and the pieces that they complete. -/
def push (open_ : Section) (six : Nat) : List Piece × Section :=
  let value := open_.value * 64 + six
  let bits := open_.bits + 6
  if 16 ≤ bits then
    let scale := Nat.pow 2 (bits - 16)
    let (pieces, lead) := take open_.lead (value / scale)
    (pieces, ⟨bits - 16, value % scale, lead⟩)
  else ([], { open_ with bits := bits, value := value })

end Section

/-- What a byte stands for outside Base64. -/
def plainPiece (byte : UInt8) : Piece :=
  if byte < 0x80 then some (Char.ofNat byte.toNat) else none

/-- The pieces of bytes in UTF-7, from outside or from within a section. -/
def utf7Pieces : Option Section → List UInt8 → List Piece
  | none, [] => []
  | some open_, [] => if open_.isClean && open_.lead.isNone then [] else [none]
  | none, byte :: rest =>
      if byte = 0x2B then
        match rest with
        | [] => []
        | next :: later =>
            if next = 0x2D then some '+' :: utf7Pieces none later
            else match sixBits? next with
              | none => none :: utf7Pieces none later
              | some six =>
                  let (pieces, open_) := Section.push {} six
                  pieces ++ utf7Pieces (some open_) later
      else plainPiece byte :: utf7Pieces none rest
  | some open_, byte :: rest =>
      match sixBits? byte with
      | some six =>
          let (pieces, open_) := open_.push six
          pieces ++ utf7Pieces (some open_) rest
      | none =>
          if !open_.isClean then none :: utf7Pieces none rest
          else
            let half : List Piece := if open_.lead.isSome && byte < 0x80 then [none] else []
            let kept : List Piece := if byte = 0x2D then [] else [plainPiece byte]
            half ++ kept ++ utf7Pieces none rest

end Rulebook.Text
