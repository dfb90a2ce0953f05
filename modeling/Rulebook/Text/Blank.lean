/-!
# Blank characters and trimming

Every field that a person types is read without the blank characters around it. This file fixes
which characters are blank and defines trimming on character lists; a field is *blank* when
nothing is left of it.
-/

namespace Rulebook.Text

/-- The characters that trimming removes: white space, line and paragraph separators and the four
information separators. The zero-width space and the byte order mark are not among them. -/
def isBlank (character : Char) : Bool :=
  let code := character.toNat
  (0x09 ≤ code && code ≤ 0x0D) || (0x1C ≤ code && code ≤ 0x20) || code == 0x85 ||
    code == 0xA0 || code == 0x1680 || (0x2000 ≤ code && code ≤ 0x200A) || code == 0x2028 ||
    code == 0x2029 || code == 0x202F || code == 0x205F || code == 0x3000

/-- A text without its leading blank characters. -/
def trimStart (text : List Char) : List Char :=
  text.dropWhile isBlank

/-- A text without its trailing blank characters. -/
def trimEnd (text : List Char) : List Char :=
  (text.reverse.dropWhile isBlank).reverse

/-- A text without the blank characters around it. -/
def trim (text : List Char) : List Char :=
  trimEnd (trimStart text)

end Rulebook.Text
