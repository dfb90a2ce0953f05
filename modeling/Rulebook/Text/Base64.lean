/-!
# Base64

Bytes are written with sixty-four characters, four characters for three bytes. A last group of one
or two bytes is filled up with equals signs, so that the text always has whole groups.
-/

namespace Rulebook.Text

/-- The character for six bits. -/
def base64Digit (value : Nat) : Char :=
  if value < 26 then Char.ofNat (0x41 + value)
  else if value < 52 then Char.ofNat (0x61 + (value - 26))
  else if value < 62 then Char.ofNat (0x30 + (value - 52))
  else if value = 62 then '+'
  else '/'

/-- The bytes in Base64, filled up with equals signs. -/
def base64 : List UInt8 → List Char
  | [] => []
  | [a] =>
      let bits := a.toNat * 0x10
      [base64Digit (bits / 0x40), base64Digit (bits % 0x40), '=', '=']
  | [a, b] =>
      let bits := (a.toNat * 0x100 + b.toNat) * 4
      [base64Digit (bits / 0x1000), base64Digit (bits / 0x40 % 0x40), base64Digit (bits % 0x40),
        '=']
  | a :: b :: c :: rest =>
      let bits := (a.toNat * 0x100 + b.toNat) * 0x100 + c.toNat
      [base64Digit (bits / 0x40000), base64Digit (bits / 0x1000 % 0x40),
        base64Digit (bits / 0x40 % 0x40), base64Digit (bits % 0x40)] ++ base64 rest

end Rulebook.Text
