import Rulebook.Text.Utf8

/-!
# Percent encoding

An id becomes one segment of a path, and a parameter one part of a query, by writing every byte
of its UTF-8 form that is not unreserved as a percent sign and two hexadecimal digits. Forms write
the space as a plus sign. Decoding undoes both.
-/

namespace Rulebook.Text

/-- The characters that stand for themselves everywhere in an address. -/
def isUnreserved (character : Char) : Bool :=
  character.isAlphanum || character == '_' || character == '.' || character == '-' ||
    character == '~'

/-- The digit of an escape, a letter in upper case. -/
def escapeDigit (value : Nat) : Char :=
  if value < 10 then Char.ofNat (0x30 + value) else Char.ofNat (0x37 + value)

/-- The escape of a byte. -/
def escapeByte (byte : UInt8) : List Char :=
  ['%', escapeDigit (byte.toNat / 16), escapeDigit (byte.toNat % 16)]

/-- A character: itself if it is safe, otherwise the escapes of its bytes. -/
def escapeUnless (isSafe : Char → Bool) (character : Char) : List Char :=
  if isSafe character then [character] else (utf8Char character).flatMap escapeByte

/-- The text with every character escaped that does not stand for itself in any part of an address.
-/
def percentEncode (text : List Char) : List Char :=
  text.flatMap (escapeUnless isUnreserved)

/-- The text as forms write it: a blank is a plus sign. -/
def formEncode (text : List Char) : List Char :=
  text.flatMap fun character =>
    if character = ' ' then ['+'] else escapeUnless isUnreserved character

/-- The bytes that an encoded text stands for. A percent sign without two digits stands for
itself. -/
def percentDecodeBytes : List Char → List UInt8
  | [] => []
  | '%' :: a :: b :: rest =>
      match hexValue? a, hexValue? b with
      | some high, some low => UInt8.ofNat (16 * high + low) :: percentDecodeBytes rest
      | _, _ => utf8Char '%' ++ percentDecodeBytes (a :: b :: rest)
  | character :: rest => utf8Char character ++ percentDecodeBytes rest

/-- The text that a segment of a path stands for. -/
def percentDecode (encoded : List Char) : List Char :=
  utf8Lossy (percentDecodeBytes encoded)

/-- The text that a name or value of a form stands for. -/
def formDecode (encoded : List Char) : List Char :=
  percentDecode (encoded.map fun character => if character = '+' then ' ' else character)

end Rulebook.Text
