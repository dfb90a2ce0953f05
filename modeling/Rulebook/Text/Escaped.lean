import Rulebook.Text.Digit
import Rulebook.Text.Reader

/-!
# Texts with escapes

A text may write its characters by escapes behind a backslash: by their code in hexadecimal or octal
digits, or by a letter for the usual control characters. Bytes outside escapes are characters of
Latin-1. In the raw form only the escapes `\u` and `\U` count.
-/

namespace Rulebook.Text

/-- Reads a character by a number of hexadecimal digits; `before` bytes stand between the backslash
and the digits. -/
def readHexEscape (before count : Nat) (bytes : List UInt8) : Reading Unit :=
  let values := (bytes.take count).map fun byte => hexValue? (Char.ofNat byte.toNat)
  let digits := values.takeWhile Option.isSome
  if digits.length < count then
    if digits.length = bytes.length then .unfinished else .broken (before + digits.length) ()
  else
    let code := digits.foldl (fun code digit => code * 16 + digit.getD 0) 0
    if code.isValidChar then .characters [Char.ofNat code] (before + count) ()
    else .broken (before + count) ()

/-- The number of hexadecimal digits behind a letter of the raw form. -/
def rawDigits? (letter : UInt8) : Option Nat :=
  if letter = 0x75 then some 4 else if letter = 0x55 then some 8 else none

/-- What the bytes in front of a text in the raw form amount to. -/
def readRawEscaped : Reader Unit := fun () first rest =>
  match first, rest with
  | 0x5C, letter :: digits =>
      match rawDigits? letter with
      | some count => readHexEscape 1 count digits
      | none => .characters ['\\', Char.ofNat letter.toNat] 1 ()
  | _, _ => .single (Char.ofNat first.toNat) ()

/-- The character that a letter behind a backslash stands for. -/
def letterEscapes : List (UInt8 × List Char) :=
  [(0x0A, []), (0x5C, ['\\']), (0x27, ['\x27']), (0x22, ['\x22']), (0x62, ['\x08']),
    (0x66, ['\x0C']), (0x74, ['\t']), (0x6E, ['\n']), (0x72, ['\r']), (0x76, ['\x0B']),
    (0x61, ['\x07'])]

/-- The byte is an octal digit. -/
def isOctalByte (byte : UInt8) : Bool := 0x30 ≤ byte && byte ≤ 0x37

/-- Reads a character by its name in braces. No name is known. -/
def readNamedEscape : List UInt8 → Reading Unit
  | [] => .unfinished
  | 0x7B :: rest =>
      let name := rest.takeWhile (· != 0x7D)
      if name.length = rest.length then .unfinished
      else if name.isEmpty then .broken 2 ()
      else .broken (name.length + 3) ()
  | _ => .broken 1 ()

/-- What the bytes in front of a text with escapes amount to. -/
def readEscaped : Reader Unit := fun () first rest =>
  if first = 0x5C then
    match rest with
    | [] => .unfinished
    | letter :: others =>
        match letterEscapes.lookup letter with
        | some text => .characters text 1 ()
        | none =>
            if isOctalByte letter then
              let digits := letter :: (others.take 2).takeWhile isOctalByte
              let code := digits.foldl (fun code digit => code * 8 + (digit.toNat - 0x30)) 0
              .characters [Char.ofNat code] digits.length ()
            else if letter = 0x78 then readHexEscape 1 2 others
            else if letter = 0x4E then readNamedEscape others
            else match rawDigits? letter with
              | some count => readHexEscape 1 count others
              | none => .characters ['\\', Char.ofNat letter.toNat] 1 ()
  else .single (Char.ofNat first.toNat) ()

end Rulebook.Text
