import Rulebook.Http.Inflate
import Rulebook.Text.Blank
import Rulebook.Text.Lines

/-!
# Codings of bodies

A response may say that its body is packed, in one or several codings that are named in the order
in which they were applied. A packed body has a header in front and a checksum behind it. This file
unpacks bodies; names of other codings are passed over.
-/

namespace Rulebook

namespace Inflate

/-- The check sum of bytes by division of polynomials, as gzip has it. -/
def divisionSum (bytes : List UInt8) : UInt32 :=
  let step (sum : UInt32) : UInt32 :=
    if sum % 2 = 1 then (sum >>> 1) ^^^ 0xEDB88320 else sum >>> 1
  (bytes.foldl (fun sum byte => (List.range 8).foldl (fun sum _ => step sum)
    (sum ^^^ byte.toUInt32)) 0xFFFFFFFF) ^^^ 0xFFFFFFFF

/-- The checksum of bytes by two sums, of the bytes and of their sums so far. -/
def doubleSum (bytes : List UInt8) : Nat :=
  let (low, high) := bytes.foldl (fun (low, high) byte =>
    let low := (low + byte.toNat) % 65521
    (low, (high + low) % 65521)) (1, 0)
  high * 65536 + low

/-- Unpacks blocks with the short header and the checksum by two sums. -/
def shortWrapped : Inflate Unit := do
  let method ← number 8
  let flags ← number 8
  if (method * 256 + flags) % 31 ≠ 0 then fail .header
  if method % 16 ≠ 8 then fail .method
  if 7 < method / 16 then fail .window
  if flags.testBit 5 then
    let _ ← number 32
    fail .dictionary
  blocks
  align
  let given ← numbers 8 4
  let state ← get
  if given.foldl (fun sum byte => sum * 256 + byte) 0 ≠ doubleSum state.output.toList then
    fail .outputSum

/-- Leaves out a text in a header with the zero behind it, at most `bound` bytes. -/
def skipText : (bound : Nat) → Inflate Unit
  | 0 => throw .unfinished
  | bound + 1 => do
      if (← number 8) = 0 then pure () else skipText bound

/-- Unpacks blocks with the long header and the checksum by division. The header may hold further
fields, a name, a remark, and a checksum of its own. -/
def longWrapped (bytes : List UInt8) : Inflate Unit := do
  if (← number 16) ≠ 0x8B1F then fail .header
  let method ← number 8
  let flags ← number 8
  if method ≠ 8 then fail .method
  if 0x20 ≤ flags then fail .flags
  let _ ← number 48
  if flags.testBit 2 then
    let length ← number 16
    let _ ← numbers 8 length
  if flags.testBit 3 then skipText bytes.length
  if flags.testBit 4 then skipText bytes.length
  if flags.testBit 1 then
    let state ← get
    let header := bytes.take (bytes.length - state.bits.length / 8)
    if (← number 16) ≠ (divisionSum header).toNat % 65536 then fail .headerSum
  blocks
  align
  let sum ← number 32
  let state ← get
  if sum ≠ (divisionSum state.output.toList).toNat then fail .outputSum
  if (← number 32) ≠ state.output.size % 4294967296 then fail .outputLength

end Inflate

/-- How a body is packed. -/
inductive Coding
  | gzip
  /-- Blocks with the short header, or without any. -/
  | deflate
deriving DecidableEq, Repr, Inhabited

namespace Coding

/-- Undoes a coding. No bytes stay no bytes. -/
def unpack (bytes : List UInt8) : Coding → Except PackFault (List UInt8)
  | .gzip => Inflate.run (Inflate.longWrapped bytes) bytes
  | .deflate =>
      match Inflate.run Inflate.shortWrapped bytes with
      | .ok output => .ok output
      | .error _ => Inflate.run Inflate.blocks bytes

/-- The coding that a header calls by this name. -/
def ofName? (name : List Char) : Option Coding :=
  match String.ofList ((Text.trim name).map Char.toLower) with
  | "gzip" => some .gzip
  | "deflate" => some .deflate
  | _ => none

/-- The codings that a header names, in the order in which they were applied. -/
def listed (header : List Char) : List Coding :=
  (Text.splitAt ',' header).filterMap ofName?

/-- Undoes codings, the last one first. -/
def unpackAll (codings : List Coding) (bytes : List UInt8) : Except PackFault (List UInt8) :=
  codings.foldr (fun coding bytes => bytes.bind fun bytes => coding.unpack bytes) (.ok bytes)

end Coding

end Rulebook
