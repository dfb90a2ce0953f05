import Rulebook.Text.ByteTable
import Rulebook.Text.Digit
import Rulebook.Text.Escaped
import Rulebook.Text.Lines
import Rulebook.Text.Punycode
import Rulebook.Text.Switched
import Rulebook.Text.Utf16
import Rulebook.Text.Utf7

/-!
# Character sets of response bodies

A response may declare the character set of its body. This file reads bytes in the character sets
that are known by name, and guesses among the Unicode encodings from the zero bytes and the byte
order mark in front, which is how JSON bodies are read whatever they declare.

Bodies are read with replacement characters for broken pieces. Some names that are known cannot be
read that way, and UTF-16 and UTF-32 need a mark; `CharsetFault` says what goes wrong then.
-/

namespace Rulebook.Text

/-- Why bytes cannot be read in a character set. -/
inductive CharsetFault
  /-- The name of the set holds the character with the code zero. -/
  | zeroInName
  /-- The name of a set is given in numbered parts and without a number; the flag says that a number
  came last. -/
  | partsInDoubt (numberLast : Bool)
  /-- A text in units of some bits does not begin with a mark. -/
  | noMark (bits : Nat)
  | undefined
  /-- The set has nothing to put in the place of broken pieces. -/
  | noReplacement
  /-- The name stands for a way to write bytes as bytes. -/
  | bytesOnly
  /-- The name stands for a way to write texts as texts. -/
  | textOnly
  /-- An escape sequence does not end within the bytes that are kept for it. -/
  | sequenceTooLong
  /-- The set has no rule for a sign. -/
  | lawless
  /-- A byte at a position among the numbers of Punycode is not in ASCII. -/
  | notAscii (byte : UInt8) (position : Nat)
deriving DecidableEq, Repr, Inhabited

/-- The wording for bytes that cannot be read. -/
def CharsetFault.message : CharsetFault → List Char
  | zeroInName => "embedded null character".toList
  | partsInDoubt numberLast =>
      "'<' not supported between instances of ".toList ++
        (if numberLast then "'int' and 'NoneType'" else "'NoneType' and 'int'").toList
  | noMark bits => "UTF-".toList ++ decimal bits ++ " stream does not start with BOM".toList
  | undefined => "undefined encoding".toList
  | noReplacement => "Unsupported error handling replace".toList
  | bytesOnly => []
  | textOnly =>
      "descriptor 'translate' for 'str' objects doesn't apply to a 'bytes' object".toList
  | sequenceTooLong => "pending buffer overflow".toList
  | lawless => "internal codec error".toList
  | notAscii byte position =>
      "'ascii' codec can't decode byte 0x".toList ++ Nat.toDigits 16 byte.toNat ++
        " in position ".toList ++ decimal position ++ ": ordinal not in range(128)".toList

/-- A way to read bytes as text. -/
inductive Charset
  | ascii
  | latin1
  /-- A character set of one byte with the given characters for the last bytes. -/
  | byteTable (upper : String)
  | multiByte (set : MultiByte)
  | switched (variant : Variant)
  /-- The variant in which tildes switch to Chinese characters. -/
  | hz
  | utf7
  | utf8
  | utf8Marked
  | utf16 (order : ByteOrder)
  | utf16Marked
  | utf32 (order : ByteOrder)
  | utf32Marked
  | escaped
  /-- Latin-1 with escapes for codes only. -/
  | rawEscaped
  | punycode
  /-- A name that is known but cannot be used. -/
  | unusable (fault : CharsetFault)
deriving DecidableEq, Repr, Inhabited

/-- The piece of a byte in a character set of one byte, given the characters of the last bytes. -/
def bytePiece (upper : List Char) (byte : UInt8) : Piece :=
  let first := 0x100 - upper.length
  if byte.toNat < first then some (Char.ofNat byte.toNat)
  else match upper[byte.toNat - first]? with
    | some '\uFFFD' | none => none
    | some character => some character

/-- The characters of a text in Punycode. Its numbers have to be in ASCII; a byte before them that
is not is a broken piece. -/
def punycodePieces (bytes : List UInt8) : Except CharsetFault (List Piece) :=
  let (_, digits) := Punycode.parts (bytes.map UInt8.toNat)
  match (digits.zipIdx).find? fun (code, _) => 0x80 ≤ code with
  | some (code, position) => .error (.notAscii (UInt8.ofNat code) position)
  | none =>
      let codes := bytes.map fun byte => if byte < 0x80 then byte.toNat else 0xFFFD
      .ok ((Punycode.decodeMost codes).map fun code =>
        if code.isValidChar then some (Char.ofNat code) else none)

/-- The pieces of bytes in a character set, and how the reading ends. -/
def Charset.run (charset : Charset) (bytes : List UInt8) : List Piece × Ending :=
  match charset with
  | .ascii => (bytes.map plainPiece, .complete)
  | .latin1 => (bytes.map fun byte => some (Char.ofNat byte.toNat), .complete)
  | .byteTable upper => (bytes.map (bytePiece upper.toList), .complete)
  | .multiByte set => set.run bytes
  | .switched variant => Reader.run variant.read {} bytes
  | .hz => Reader.run readHz false bytes
  | .utf7 => (utf7Pieces none bytes, .complete)
  | .utf8 => (piecesOfUtf8 bytes, .complete)
  | .utf8Marked =>
      match bytes with
      | 0xEF :: 0xBB :: 0xBF :: rest => (piecesOfUtf8 rest, .complete)
      | _ => (piecesOfUtf8 bytes, .complete)
  | .utf16 order => (piecesOfUtf16 order bytes, .complete)
  | .utf16Marked =>
      match bytes with
      | 0xFE :: 0xFF :: rest => (piecesOfUtf16 .bigEndian rest, .complete)
      | 0xFF :: 0xFE :: rest => (piecesOfUtf16 .littleEndian rest, .complete)
      | _ => (piecesOfUtf16 .littleEndian bytes, .complete)
  | .utf32 order => (piecesOfUtf32 order bytes, .complete)
  | .utf32Marked =>
      match bytes with
      | 0x00 :: 0x00 :: 0xFE :: 0xFF :: rest => (piecesOfUtf32 .bigEndian rest, .complete)
      | 0xFF :: 0xFE :: 0x00 :: 0x00 :: rest => (piecesOfUtf32 .littleEndian rest, .complete)
      | _ => (piecesOfUtf32 .littleEndian bytes, .complete)
  | .escaped => Reader.run readEscaped () bytes
  | .rawEscaped => Reader.run readRawEscaped () bytes
  | .punycode =>
      match punycodePieces bytes with
      | .ok pieces => (pieces, .complete)
      | .error _ => ([], .lawless)
  | .unusable _ => ([], .lawless)

/-- Reads bytes as a text if no piece is broken. -/
def Charset.decode? (charset : Charset) (bytes : List UInt8) : Option (List Char) :=
  match charset.run bytes with
  | (pieces, .complete) => pieces.mapM id
  | _ => none

/-- The bytes may yet turn out to be the mark of UTF-8. -/
def isPartialMark (bytes : List UInt8) : Bool :=
  bytes == [0xEF] || bytes == [0xEF, 0xBB]

/-- The bytes begin with a mark of UTF-16. -/
def hasMark16 : List UInt8 → Bool
  | 0xFE :: 0xFF :: _ | 0xFF :: 0xFE :: _ => true
  | _ => false

/-- The bytes begin with a mark of UTF-32. -/
def hasMark32 : List UInt8 → Bool
  | 0x00 :: 0x00 :: 0xFE :: 0xFF :: _ | 0xFF :: 0xFE :: 0x00 :: 0x00 :: _ => true
  | _ => false

/-- What keeps bytes from being read in a character set. A missing mark is missed once there is a
whole unit. -/
def Charset.fault? (charset : Charset) (bytes : List UInt8) : Option CharsetFault :=
  match charset with
  | .utf16Marked => if 2 ≤ bytes.length && !hasMark16 bytes then some (.noMark 16) else none
  | .utf32Marked => if 4 ≤ bytes.length && !hasMark32 bytes then some (.noMark 32) else none
  | .switched variant =>
      match (Reader.run variant.read {} bytes).2 with
      | .complete => none
      | .unfinished left => if 8 < left then some .sequenceTooLong else none
      | .lawless => some .lawless
  | .punycode =>
      match punycodePieces bytes with
      | .ok _ => none
      | .error fault => some fault
  | .unusable fault => some fault
  | _ => none

/-- Reads bytes as a text, with a replacement character for every broken piece and for the bytes
that are left over at the end. -/
def Charset.decodeLossy (charset : Charset) (bytes : List UInt8) :
    Except CharsetFault (List Char) :=
  match charset.fault? bytes with
  | some fault => .error fault
  | none =>
      if charset == .utf8Marked && isPartialMark bytes then .ok []
      else
        let (pieces, ending) := charset.run bytes
        let rest : List Piece := if ending = .complete then [] else [none]
        .ok ((pieces ++ rest).map fun piece => piece.getD '\uFFFD')

/-- The Unicode encoding that the bytes in front suggest for a JSON text, whose first two
characters are in ASCII. -/
def Charset.detect (bytes : List UInt8) : Charset :=
  if [0x00, 0x00, 0xFE, 0xFF].isPrefixOf bytes || [0xFF, 0xFE, 0x00, 0x00].isPrefixOf bytes then
    .utf32Marked
  else if [0xFE, 0xFF].isPrefixOf bytes || [0xFF, 0xFE].isPrefixOf bytes then .utf16Marked
  else if [0xEF, 0xBB, 0xBF].isPrefixOf bytes then .utf8Marked
  else match bytes with
    | a :: b :: c :: d :: _ =>
        if a = 0 then (if b = 0 then .utf32 .bigEndian else .utf16 .bigEndian)
        else if b = 0 then
          (if c = 0 ∧ d = 0 then .utf32 .littleEndian else .utf16 .littleEndian)
        else .utf8
    | [a, b] =>
        if a = 0 then .utf16 .bigEndian
        else if b = 0 then .utf16 .littleEndian
        else .utf8
    | _ => .utf8

/-- A character set by its names. -/
structure CharsetEntry where
  name : String
  /-- The other names, in which a point may stand for an underscore. -/
  aliases : List String
  charset : Charset

/-- The Unicode encodings and the character sets of one byte, by their names. -/
def commonCharsets : List CharsetEntry :=
  [
    ⟨"ascii", ["646", "ansi_x3.4_1968", "ansi_x3_4_1968", "ansi_x3.4_1986", "cp367", "csascii",
      "ibm367", "iso646_us", "iso_646.irv_1991", "iso_ir_6", "us", "us_ascii"], .ascii⟩,
    ⟨"latin_1", ["8859", "cp819", "csisolatin1", "ibm819", "iso8859", "iso8859_1", "iso_8859_1",
      "iso_8859_1_1987", "iso_ir_100", "l1", "latin", "latin1"], .latin1⟩,
    ⟨"utf_7", ["u7", "utf7", "unicode_1_1_utf_7"], .utf7⟩,
    ⟨"utf_8", ["u8", "utf", "utf8", "utf8_ucs2", "utf8_ucs4", "cp65001"], .utf8⟩,
    ⟨"utf_8_sig", [], .utf8Marked⟩,
    ⟨"utf_16", ["u16", "utf16"], .utf16Marked⟩,
    ⟨"utf_16_le", ["unicodelittleunmarked", "utf_16le"], .utf16 .littleEndian⟩,
    ⟨"utf_16_be", ["unicodebigunmarked", "utf_16be"], .utf16 .bigEndian⟩,
    ⟨"utf_32", ["u32", "utf32"], .utf32Marked⟩,
    ⟨"utf_32_le", ["utf_32le"], .utf32 .littleEndian⟩,
    ⟨"utf_32_be", ["utf_32be"], .utf32 .bigEndian⟩
  ] ++ byteTables.map fun table =>
    ⟨table.names.headD "", table.names.tail, .byteTable table.upper⟩

/-- The character sets of several bytes, by their names. -/
def eastAsianCharsets : List CharsetEntry :=
  [
    ⟨"gb2312", ["chinese", "csiso58gb231280", "euc_cn", "euccn", "eucgb2312_cn", "gb2312_1980",
      "gb2312_80", "iso_ir_58", "x_mac_simp_chinese"], .multiByte .gb2312⟩,
    ⟨"gbk", ["936", "cp936", "ms936"], .multiByte .gbk⟩,
    ⟨"gb18030", ["gb18030_2000"], .multiByte .gb18030⟩,
    ⟨"big5", ["big5_tw", "csbig5", "x_mac_trad_chinese"], .multiByte .big5⟩,
    ⟨"cp950", ["950", "ms950"], .multiByte .cp950⟩,
    ⟨"big5hkscs", ["big5_hkscs", "hkscs"], .multiByte .big5hkscs⟩,
    ⟨"shift_jis", ["csshiftjis", "shiftjis", "sjis", "s_jis", "x_mac_japanese"],
      .multiByte .shiftJis⟩,
    ⟨"cp932", ["932", "ms932", "mskanji", "ms_kanji"], .multiByte .cp932⟩,
    ⟨"shift_jis_2004", ["shiftjis2004", "sjis_2004", "s_jis_2004"],
      .multiByte (.shiftJis0213 true)⟩,
    ⟨"shift_jisx0213", ["shiftjisx0213", "sjisx0213", "s_jisx0213"],
      .multiByte (.shiftJis0213 false)⟩,
    ⟨"euc_jp", ["eucjp", "ujis", "u_jis"], .multiByte .eucJp⟩,
    ⟨"euc_jis_2004", ["jisx0213", "eucjis2004", "euc_jis2004"], .multiByte (.eucJis0213 true)⟩,
    ⟨"euc_jisx0213", ["eucjisx0213"], .multiByte (.eucJis0213 false)⟩,
    ⟨"euc_kr", ["euckr", "korean", "ksc5601", "ks_c_5601", "ks_c_5601_1987", "ksx1001",
      "ks_x_1001", "x_mac_korean"], .multiByte .eucKr⟩,
    ⟨"cp949", ["949", "ms949", "uhc"], .multiByte .cp949⟩,
    ⟨"johab", ["cp1361", "ms1361"], .multiByte .johab⟩,
    ⟨"iso2022_jp", ["csiso2022jp", "iso2022jp", "iso_2022_jp"], .switched iso2022Jp⟩,
    ⟨"iso2022_jp_1", ["iso2022jp_1", "iso_2022_jp_1"], .switched iso2022Jp1⟩,
    ⟨"iso2022_jp_2", ["iso2022jp_2", "iso_2022_jp_2"], .switched iso2022Jp2⟩,
    ⟨"iso2022_jp_3", ["iso2022jp_3", "iso_2022_jp_3"], .switched iso2022Jp3⟩,
    ⟨"iso2022_jp_2004", ["iso_2022_jp_2004", "iso2022jp_2004"], .switched iso2022Jp2004⟩,
    ⟨"iso2022_jp_ext", ["iso2022jp_ext", "iso_2022_jp_ext"], .switched iso2022JpExt⟩,
    ⟨"iso2022_kr", ["csiso2022kr", "iso2022kr", "iso_2022_kr"], .switched iso2022Kr⟩,
    ⟨"hz", ["hzgb", "hz_gb", "hz_gb_2312"], .hz⟩
  ]

/-- The names that are known for other things than texts in a language. -/
def specialCharsets : List CharsetEntry :=
  [
    ⟨"unicode_escape", [], .escaped⟩,
    ⟨"raw_unicode_escape", [], .rawEscaped⟩,
    ⟨"charmap", [], .latin1⟩,
    ⟨"punycode", [], .punycode⟩,
    ⟨"idna", [], .unusable .noReplacement⟩,
    ⟨"undefined", [], .unusable .undefined⟩,
    ⟨"rot_13", ["rot13"], .unusable .textOnly⟩,
    ⟨"base64_codec", ["base64", "base_64"], .unusable .bytesOnly⟩,
    ⟨"bz2_codec", ["bz2"], .unusable .bytesOnly⟩,
    ⟨"hex_codec", ["hex"], .unusable .bytesOnly⟩,
    ⟨"quopri_codec", ["quopri", "quoted_printable", "quotedprintable"], .unusable .bytesOnly⟩,
    ⟨"uu_codec", ["uu"], .unusable .bytesOnly⟩,
    ⟨"zlib_codec", ["zip", "zlib"], .unusable .bytesOnly⟩
  ]

/-- Every character set that may be named. -/
def knownCharsets : List CharsetEntry :=
  commonCharsets ++ eastAsianCharsets ++ specialCharsets

/-- A name with every run of characters other than letters, digits and points as one underscore,
and without such runs at the ends. -/
def charsetKey (name : List Char) : List Char :=
  let words := name.map fun character =>
    if character.isAlphanum || character == '.' then character.toLower else '_'
  join ['_'] ((splitAt '_' words).filter (!·.isEmpty))

/-- The character set of a name or of another name for it, whatever its case and its separators. -/
def Charset.ofName? (name : List Char) : Option Charset :=
  let key := charsetKey name
  let plain := String.ofList (key.map fun character => if character = '.' then '_' else character)
  let key := String.ofList key
  let entry? := (knownCharsets.find? (·.aliases.contains key)).or <|
    (knownCharsets.find? (·.aliases.contains plain)).or (knownCharsets.find? (·.name == key))
  entry?.map CharsetEntry.charset

end Rulebook.Text
