import Rulebook.Text.Big5Table
import Rulebook.Text.ChineseTable
import Rulebook.Text.Hangul
import Rulebook.Text.JapaneseTable
import Rulebook.Text.Reader

/-!
# Character sets of several bytes

In these sets a byte below 80 (hexadecimal) is a character of its own, and a higher byte begins a
sequence whose length its first bytes tell. `MultiByte.read` says for each set what the bytes in
front of a text amount to.
-/

namespace Rulebook.Text

/-- A character set of several bytes. -/
inductive MultiByte
  | gb2312
  | gbk
  | gb18030
  | big5
  /-- Big5 as the Windows code page has it. -/
  | cp950
  /-- Big5 with the supplement of Hong Kong. -/
  | big5hkscs
  | shiftJis
  | cp932
  /-- Shift JIS over JIS X 0213, in the edition of 2004 or an earlier one. -/
  | shiftJis0213 ( is2004 : Bool)
  | eucJp
  | eucJis0213 ( is2004 : Bool)
  | eucKr
  /-- The Korean Windows code page. -/
  | cp949
  | johab
deriving DecidableEq, Repr, Inhabited

/-- Reads two bytes as a character. -/
def readPair (pair : Nat → Nat → Option Char) (first : UInt8) : List UInt8 → Reading Unit
  | [] => .unfinished
  | second :: _ => .orBroken ((pair first.toNat second.toNat).map ([·])) 1 ()

/-! ## Chinese -/

/-- The character of two bytes in GB 2312. -/
def gb2312Char? (first second : Nat) : Option Char :=
  gb2312Rows.inHighGrid? first second

/-- The character of two bytes in GBK, which reads three places of GB 2312 in its own way. -/
def gbkChar? (first second : Nat) : Option Char :=
  if first = 0xA1 ∧ second = 0xAA then some '—'
  else if first = 0xA8 ∧ second = 0x44 then some '―'
  else if first = 0xA1 ∧ second = 0xA4 then some '·'
  else (gb2312Char? first second).or (gbkRows.inWideRow? first second)

/-- The character of two bytes that only GB 18030 has. -/
def gb18030Char? (first second : Nat) : Option Char :=
  (widePlace? second).bind fun place =>
    (gb18030Runs.find? fun (lead, start, stop, _) =>
      lead == first && start ≤ place && place ≤ stop).map fun (_, start, _, code) =>
        Char.ofNat (code + (place - start))

/-- The character at a place of four bytes. -/
def fourByteChar? (first second third fourth : Nat) : Option Char :=
  let within := (second - 0x30) * 1260 + (third - 0x81) * 10 + (fourth - 0x30)
  if first < 0x85 then
    let place := (first - 0x81) * 12600 + within
    if place < 39420 then
      (gb18030Steps.reverse.find? fun (start, _) => start ≤ place).map fun (start, code) =>
        Char.ofNat (code + (place - start))
    else none
  else if 0x90 ≤ first then
    let code := 0x10000 + (first - 0x90) * 12600 + within
    if code < 0x110000 then some (Char.ofNat code) else none
  else none

/-- The byte is a digit of ASCII. -/
def isDigitByte (byte : UInt8) : Bool := 0x30 ≤ byte && byte ≤ 0x39

/-- The byte may begin a character of several bytes. -/
def isLeadByte (byte : UInt8) : Bool := 0x81 ≤ byte && byte ≤ 0xFE

/-- Reads a sequence of GB 18030, which takes two bytes or four. -/
def readGb18030 (first : UInt8) (rest : List UInt8) : Reading Unit :=
  match rest with
  | [] => .unfinished
  | second :: others =>
      if isDigitByte second then
        match others with
        | third :: fourth :: _ =>
            if isLeadByte first && isLeadByte third && isDigitByte fourth then
              .orBroken ((fourByteChar? first.toNat second.toNat third.toNat fourth.toNat).map
                ([·])) 3 ()
            else .broken 0 ()
        | _ => .unfinished
      else
        .orBroken (((gbkChar? first.toNat second.toNat).or
          (gb18030Char? first.toNat second.toNat)).map ([·])) 1 ()

/-- The place in its row that the second byte of Big5 names. -/
def big5Place? (second : Nat) : Option Nat :=
  if 0x40 ≤ second ∧ second < 0x7F then some (second - 0x40)
  else if 0xA1 ≤ second ∧ second < 0xFF then some (second - 0xA1 + 63)
  else none

/-- The character of two bytes in Big5. -/
def big5Char? (first second : Nat) : Option Char :=
  (big5Place? second).bind (big5Rows.at? first)

/-- The character of two bytes in the Windows code page. -/
def cp950Char? (first second : Nat) : Option Char :=
  ((big5Place? second).bind (cp950Rows.at? first)).or (big5Char? first second)

/-- The characters of two bytes in the supplement of Hong Kong. Its own rows replace those of Big5
from C6A1 to C8FE (hexadecimal). -/
def hkscsText? (first second : Nat) : Option (List Char) :=
  let isCommon := first < 0xC6 ∨ 0xC8 < first ∨ (first = 0xC6 ∧ second < 0xA1)
  let common := if isCommon then big5Char? first second else none
  (big5Place? second).bind fun place =>
    ((common.or (hkscsRows.at? first place)).map ([·])).or
      ((hkscsPairs.lookup (first, place)).map String.toList)

/-! ## Japanese -/

/-- The row and the column that two bytes of Shift JIS name. -/
def shiftGrid? (first second : Nat) : Option (Nat × Nat) :=
  (widePlace? second).bind fun place =>
    if second < 0xFD then
      let lead := if first < 0xE0 then first - 0x81 else first - 0xC1
      if place < 94 then some (2 * lead + 0x21, place + 0x21)
      else some (2 * lead + 0x22, place - 94 + 0x21)
    else none

/-- The byte begins a pair of Shift JIS. -/
def isShiftLead (first : Nat) : Bool :=
  (0x81 ≤ first && first ≤ 0x9F) || (0xE0 ≤ first && first ≤ 0xFC)

/-- The Japanese letter of half width that a byte stands for. -/
def halfWidth? (byte : Nat) : Option Char :=
  if 0xA1 ≤ byte ∧ byte ≤ 0xDF then some (Char.ofNat (0xFEC0 + byte)) else none

/-- The character of two bytes in Shift JIS. -/
def shiftJisChar? (first second : Nat) : Option Char :=
  if isShiftLead first then
    (shiftGrid? first second).bind fun (row, column) => jis0208Rows.inGrid? row column
  else none

/-- The character of two bytes in the Windows code page, with room for private characters. -/
def cp932Char? (first second : Nat) : Option Char :=
  (cp932Rows.inWideRow? first second).or <|
    if first < 0xF0 then shiftJisChar? first second
    else if first ≤ 0xF9 ∧ second < 0xFD then
      (widePlace? second).map fun place => Char.ofNat (0xE000 + 188 * (first - 0xF0) + place)
    else none

/-- The single character of a byte in the Windows code page. -/
def cp932Single? (byte : Nat) : Option Char :=
  if byte = 0x80 then some (Char.ofNat 0x80)
  else if byte = 0xA0 then some (Char.ofNat 0xF8F0)
  else if 0xFD ≤ byte then some (Char.ofNat (0xF8F1 + (byte - 0xFD)))
  else halfWidth? byte

/-- The places of the first plane that only the edition of 2004 has. -/
def newPlaces : List (Nat × Nat) :=
  [(0x2E, 0x21), (0x2F, 0x7E), (0x4F, 0x54), (0x4F, 0x7E), (0x74, 0x27), (0x7E, 0x7A),
    (0x7E, 0x7B), (0x7E, 0x7C), (0x7E, 0x7D), (0x7E, 0x7E)]

/-- The characters at a place of the first plane of JIS X 0213. -/
def plane1Text? (row column : Nat) : Option (List Char) :=
  (((jis0208Rows.inGrid? row column).or (jis0213Rows.inGrid? row column)).map ([·])).or
    ((jis0213Pairs.lookup (row, column - 0x21)).map String.toList)

/-- Reads two bytes that name a place of the first plane; a place that the edition does not have yet
breaks both. -/
def readPlane1 ( is2004 : Bool) (row column : Nat) : Reading Unit :=
  if !is2004 && newPlaces.contains (row, column) then .broken 1 ()
  else .orBroken (plane1Text? row column) 1 ()

/-- The character at a place of the second plane of JIS X 0213. -/
def plane2Char? ( is2004 : Bool) (row column : Nat) : Option Char :=
  if !is2004 && row == 0x7D && column == 0x3B then some '鬝'
  else jis0213Rows2.inGrid? row column

/-- The row of the second plane that a pair of Shift JIS names after the 94 rows of the first. -/
def plane2Row (row : Nat) : Nat :=
  if 0x88 ≤ row then row - 0x1A
  else if 0x84 ≤ row ∨ row = 0x80 then row - 0x58
  else row - 0x5E

/-- Reads two bytes of Shift JIS over JIS X 0213. -/
def readShiftPair ( is2004 : Bool) (first second : Nat) : Reading Unit :=
  match if isShiftLead first then shiftGrid? first second else none with
  | none => .broken 0 ()
  | some (row, column) =>
      if row = 0x21 ∧ column = 0x40 then .characters ['\\'] 1 ()
      else if row = 0x22 ∧ column = 0x32 then .characters ['~'] 1 ()
      else if row < 0x7F then readPlane1 is2004 row column
      else .orBroken ((plane2Char? is2004 (plane2Row row) column).map ([·])) 1 ()

/-- Reads a character of Shift JIS over JIS X 0213, whose single bytes have the sign of the yen and
an overline. -/
def readShift0213 ( is2004 : Bool) (first : UInt8) (rest : List UInt8) : Reading Unit :=
  if first = 0x5C then .single '¥' ()
  else if first = 0x7E then .single '‾' ()
  else if first < 0x80 then .single (Char.ofNat first.toNat) ()
  else match halfWidth? first.toNat, rest with
    | some character, _ => .single character ()
    | none, [] => .unfinished
    | none, second :: _ => readShiftPair is2004 first.toNat second.toNat

/-- Reads a character of extended Unix code, given how two bytes that name a row and a column are
read, and what three bytes stand for. -/
def readEucJapanese (two : Nat → Nat → Reading Unit) (three : Nat → Nat → Option Char)
    (first : UInt8) : List UInt8 → Reading Unit
  | [] => .unfinished
  | second :: rest =>
      if first = 0x8E then .orBroken ((halfWidth? second.toNat).map ([·])) 1 ()
      else if first = 0x8F then
        match rest with
        | [] => .unfinished
        | third :: _ =>
            if 0xA1 ≤ second ∧ 0xA1 ≤ third then
              .orBroken ((three (second.toNat - 0x80) (third.toNat - 0x80)).map ([·])) 2 ()
            else .broken 0 ()
      else if 0xA1 ≤ first ∧ 0xA1 ≤ second then
        two (first.toNat - 0x80) (second.toNat - 0x80)
      else .broken 0 ()

/-! ## Korean -/

/-- The character of two bytes in the Korean code. -/
def eucKrChar? (first second : Nat) : Option Char :=
  ks1001Rows.inHighGrid? first second

/-- The place of a letter in an alphabet. -/
def letterPlace? (letters : String) (letter : Char) : Option Nat :=
  letters.toList.idxOf? letter

/-- The syllable that eight bytes spell: each of four pairs has a letter or the filler behind the
same first byte. -/
def spelledSyllable? (lead vowel final : Nat) : Option Char :=
  let letter? := eucKrChar? 0xA4
  let final? := if final = 0xD4 then some 0
    else ((letter? final).bind (letterPlace? finalLetters)).map (· + 1)
  match (letter? lead).bind (letterPlace? leadLetters),
      (letter? vowel).bind (letterPlace? vowelLetters), final? with
  | some lead, some vowel, some final => some (syllable lead vowel final)
  | _, _, _ => none

/-- Reads a character of the Korean code. -/
def readEucKr (first : UInt8) : List UInt8 → Reading Unit
  | [] => .unfinished
  | second :: rest =>
      if first = 0xA4 ∧ second = 0xD4 then
        match rest with
        | a :: lead :: b :: vowel :: c :: final :: _ =>
            if a = 0xA4 ∧ b = 0xA4 ∧ c = 0xA4 then
              .orBroken ((spelledSyllable? lead.toNat vowel.toNat final.toNat).map ([·])) 7 ()
            else .broken 0 ()
        | _ => .unfinished
      else .orBroken ((eucKrChar? first.toNat second.toNat).map ([·])) 1 ()

/-- The place of a second byte among the letters and the high bytes. -/
def cp949Place? (second : Nat) : Option Nat :=
  if 0x41 ≤ second ∧ second ≤ 0x5A then some (second - 0x41)
  else if 0x61 ≤ second ∧ second ≤ 0x7A then some (second - 0x61 + 26)
  else if 0x81 ≤ second ∧ second ≤ 0xFE then some (second - 0x81 + 52)
  else none

/-- The place of two bytes among the syllables that the code page adds: the rows are shorter where
the standard has its own characters behind them. -/
def cp949Syllable? (first second : Nat) : Option Nat :=
  (cp949Place? second).bind fun place =>
    let index :=
      if first ≤ 0xA0 then (first - 0x81) * 178 + place
      else 32 * 178 + (first - 0xA1) * 84 + place
    if 0x81 ≤ first ∧ (first ≤ 0xA0 ∨ place < 84) ∧ index < 8822 then some index else none

/-- The character of two bytes in the Korean code page. -/
def cp949Char? (first second : Nat) : Option Char :=
  (eucKrChar? first second).or ((cp949Syllable? first second).map unnamedSyllable)

/-- A part of a syllable of Johab. -/
inductive JohabPart
  /-- The part is left out. -/
  | filler
  | letter (place : Nat)
deriving DecidableEq, Repr, Inhabited

/-- A part of a syllable: a filler, or the place of a letter below a bound. -/
def johabPart? ( isFiller isLetter : Bool) (place : Nat) : Option JohabPart :=
  if isFiller then some .filler else if isLetter then some (.letter place) else none

/-- The leading consonant that five bits of Johab name. -/
def johabLead? (bits : Nat) : Option JohabPart :=
  johabPart? (bits == 1) (2 ≤ bits && bits ≤ 20) (bits - 2)

/-- The vowel of five bits; every eight of them begin with two that stand for none. -/
def johabVowel? (bits : Nat) : Option JohabPart :=
  johabPart? (bits == 2) (2 ≤ bits % 8 && bits ≠ 2 && bits ≤ 29) (bits - 3 - bits / 8 * 2)

/-- The final consonant that five bits of Johab name. -/
def johabFinal? (bits : Nat) : Option JohabPart :=
  johabPart? (bits == 1) (2 ≤ bits && bits ≤ 29 && bits ≠ 18)
    (if bits < 18 then bits - 2 else bits - 3)

/-- The character of three parts: a syllable, a single letter, or a blank. -/
def johabChar? : JohabPart → JohabPart → JohabPart → Option Char
  | .filler, .filler, .filler => some '\u3000'
  | .filler, .filler, .letter final => finalLetters.toList[final]?
  | .filler, .letter vowel, .filler => vowelLetters.toList[vowel]?
  | .letter lead, .filler, .filler => leadLetters.toList[lead]?
  | .letter lead, .letter vowel, .filler => some (syllable lead vowel 0)
  | .letter lead, .letter vowel, .letter final => some (syllable lead vowel (final + 1))
  | .filler, .letter _, .letter _ | .letter _, .filler, .letter _ => none

/-- The sign or the Chinese character of two bytes in Johab: the rows of KS X 1001, two behind a
first byte, without those of letters and syllables. -/
def johabSign? (first second : Nat) : Option Char :=
  if first = 0xD8 ∨ first = 0xDF ∨ 0xF9 < first ∨ second < 0x31 ∨
      (0x80 ≤ second ∧ second < 0x91) ∨ second % 0x80 = 0x7F ∨
      (first = 0xDA ∧ 0xA1 ≤ second ∧ second ≤ 0xD3) then none
  else
    let row := if first < 0xE0 then 2 * first - 0x1B2 else 2 * first - 0x197
    let place := if second < 0x91 then second - 0x31 else second - 0x43
    ks1001Rows.at? (row + 0x21 + place / 94) (place % 94)

/-- The character of two bytes in Johab. -/
def johabPair? (first second : Nat) : Option Char :=
  if first < 0xD8 then
    match johabLead? (first / 4 % 32), johabVowel? ((first * 8 + second / 32) % 32),
        johabFinal? (second % 32) with
    | some lead, some vowel, some final => johabChar? lead vowel final
    | _, _, _ => none
  else johabSign? first second

/-! ## All sets -/

/-- What the bytes in front of a text in a set amount to. -/
def MultiByte.read (set : MultiByte) : Reader Unit := fun () first rest =>
  match set with
  | .shiftJis0213 is2004 => readShift0213 is2004 first rest
  | _ =>
      if first < 0x80 then .single (Char.ofNat first.toNat) ()
      else match set with
        | .shiftJis0213 _ | .gb2312 => readPair gb2312Char? first rest
        | .gbk => readPair gbkChar? first rest
        | .gb18030 => readGb18030 first rest
        | .big5 => readPair big5Char? first rest
        | .cp950 => readPair cp950Char? first rest
        | .big5hkscs =>
            match rest with
            | [] => .unfinished
            | second :: _ => .orBroken (hkscsText? first.toNat second.toNat) 1 ()
        | .shiftJis =>
            match halfWidth? first.toNat with
            | some character => .single character ()
            | none => readPair shiftJisChar? first rest
        | .cp932 =>
            match cp932Single? first.toNat with
            | some character => .single character ()
            | none => readPair cp932Char? first rest
        | .eucJp =>
            readEucJapanese
              (fun row column => .orBroken ((jis0208Rows.inGrid? row column).map ([·])) 1 ())
              jis0212Rows.inGrid? first rest
        | .eucJis0213 is2004 =>
            readEucJapanese (readPlane1 is2004)
              (fun row column => (plane2Char? is2004 row column).or
                (jis0212Rows.inGrid? row column)) first rest
        | .eucKr => readEucKr first rest
        | .cp949 => readPair cp949Char? first rest
        | .johab => readPair johabPair? first rest

/-- The pieces of a text in a set, and how the reading ends. -/
def MultiByte.run (set : MultiByte) (bytes : List UInt8) : List Piece × Ending :=
  Reader.run set.read () bytes

end Rulebook.Text
