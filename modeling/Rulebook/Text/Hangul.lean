import Rulebook.Text.KoreanTable

/-!
# Korean syllables

A syllable has a leading consonant, a vowel, and perhaps a final consonant; its code follows from
the places of the three in their alphabets. KS X 1001 names 2350 of the syllables, and the sets that
extend it name the others in alphabetical order.
-/

namespace Rulebook.Text

/-- The leading consonants in the order of their alphabet. -/
def leadLetters : String := "ㄱㄲㄴㄷㄸㄹㅁㅂㅃㅅㅆㅇㅈㅉㅊㅋㅌㅍㅎ"

/-- The vowels in the order of their alphabet. -/
def vowelLetters : String := "ㅏㅐㅑㅒㅓㅔㅕㅖㅗㅘㅙㅚㅛㅜㅝㅞㅟㅠㅡㅢㅣ"

/-- The final consonants in the order of their alphabet. -/
def finalLetters : String := "ㄱㄲㄳㄴㄵㄶㄷㄹㄺㄻㄼㄽㄾㄿㅀㅁㅂㅄㅅㅆㅇㅈㅊㅋㅌㅍㅎ"

/-- The syllable of a leading consonant, a vowel and a final consonant, of which number 0 is
none. -/
def syllable (lead vowel final : Nat) : Char :=
  Char.ofNat (0xAC00 + (lead * 21 + vowel) * 28 + final)

/-- The syllables that KS X 1001 names. -/
def namedSyllables : List Char :=
  (ks1001Rows.filter fun (row, _) => 0x30 ≤ row && row ≤ 0x48).flatMap fun (_, text) => text.toList

/-- The syllable at a place among those that KS X 1001 does not name. -/
def unnamedSyllable (place : Nat) : Char :=
  Char.ofNat (namedSyllables.foldl
    (fun code named => if named.toNat ≤ code then code + 1 else code) (0xAC00 + place))

end Rulebook.Text
