import Mathlib
import Rulebook.Text.Utf8

/-!
# Reading UTF-8 back

The bytes of a character are one piece, whatever follows them, and a piece that is a character
consists of the bytes of this character. So the bytes of a text read back as the text, and the bytes
that can be read strictly are exactly those of texts.
-/

namespace Rulebook.Text

/-! ## Pieces -/

/-- The further bytes of a character: the first of them in a range of its own, the others in the
range of all further bytes. -/
def AreFurther (low high : Nat) : List UInt8 → Prop
  | [] => True
  | byte :: bytes => (low ≤ byte.toNat ∧ byte.toNat ≤ high) ∧
      ∀ other ∈ bytes, 0x80 ≤ other.toNat ∧ other.toNat ≤ 0xBF

/-- The bits of further bytes, put behind the bits before them. -/
def furtherBits (code : Nat) (bytes : List UInt8) : Nat :=
  bytes.foldl (fun code byte => code * 0x40 + byte.toNat % 0x40) code

theorem areFurther_iff {bytes : List UInt8} :
    AreFurther 0x80 0xBF bytes ↔ ∀ byte ∈ bytes, 0x80 ≤ byte.toNat ∧ byte.toNat ≤ 0xBF := by
  cases bytes with
  | nil => simp [AreFurther]
  | cons byte bytes => rw [AreFurther, List.forall_mem_cons]

/-- A further byte is read where it is in its range, and the others after it are read. -/
theorem utf8Rest_succ_eq_ok_iff {code due low high value taken : Nat} {byte : UInt8}
    {rest : List UInt8} :
    utf8Rest code (due + 1) low high (byte :: rest) = (.ok value, taken) ↔
      (low ≤ byte.toNat ∧ byte.toNat ≤ high) ∧ ∃ count, taken = count + 1 ∧
        utf8Rest (code * 0x40 + byte.toNat % 0x40) due 0x80 0xBF rest = (.ok value, count) := by
  rw [utf8Rest]
  split
  · next inRange =>
    rcases utf8Rest (code * 0x40 + byte.toNat % 0x40) due 0x80 0xBF rest with ⟨result, count⟩
    simp only [Prod.mk.injEq, inRange, and_self, true_and]
    constructor
    · rintro ⟨rfl, rfl⟩
      exact ⟨count, rfl, rfl, rfl⟩
    · rintro ⟨_, rfl, rfl, rfl⟩
      exact ⟨rfl, rfl⟩
  · next outside => simp [outside]

theorem utf8Rest_eq_ok_iff {code due low high value taken : Nat} {bytes : List UInt8} :
    utf8Rest code due low high bytes = (.ok value, taken) ↔
      taken = due ∧ ∃ further more, bytes = further ++ more ∧ further.length = due ∧
        AreFurther low high further ∧ value = furtherBits code further := by
  induction due generalizing code low high bytes taken with
  | zero =>
      simp only [utf8Rest, Prod.mk.injEq, Except.ok.injEq, List.length_eq_zero_iff]
      constructor
      · rintro ⟨rfl, rfl⟩
        exact ⟨rfl, [], bytes, rfl, rfl, trivial, rfl⟩
      · rintro ⟨rfl, _, _, _, rfl, _, rfl⟩
        exact ⟨rfl, rfl⟩
  | succ due ih =>
      cases bytes with
      | nil =>
          simp only [utf8Rest, Prod.mk.injEq, reduceCtorEq, false_and, false_iff]
          rintro ⟨_, further, more, split, long, _, _⟩
          rw [(List.append_eq_nil_iff.mp split.symm).1] at long
          cases long
      | cons byte rest =>
          rw [utf8Rest_succ_eq_ok_iff]
          constructor
          · rintro ⟨inRange, count, rfl, read⟩
            rcases ih.mp read with ⟨rfl, further, more, rfl, long, are, rfl⟩
            exact ⟨rfl, byte :: further, more, rfl, by rw [List.length_cons, long],
              ⟨inRange, areFurther_iff.mp are⟩, rfl⟩
          · rintro ⟨rfl, further, more, split, long, are, rfl⟩
            cases further with
            | nil => cases long
            | cons _ further =>
                rw [List.cons_append, List.cons_eq_cons] at split
                rcases split with ⟨rfl, rfl⟩
                exact ⟨are.1, due, rfl, ih.mpr ⟨rfl, further, more, rfl, by simpa using long,
                  areFurther_iff.mpr are.2, rfl⟩⟩

/-- The first bytes of longer characters, by the number of further bytes and the range of the
second one. -/
theorem utf8Lead?_eq_some_iff {first due low high : Nat} :
    utf8Lead? first = some (due, low, high) ↔ 0xC2 ≤ first ∧ first ≤ 0xF4 ∧
      due = (if first < 0xE0 then 1 else if first < 0xF0 then 2 else 3) ∧
      low = (if first = 0xE0 then 0xA0 else if first = 0xF0 then 0x90 else 0x80) ∧
      high = (if first = 0xED then 0x9F else if first = 0xF4 then 0x8F else 0xBF) := by
  rw [utf8Lead?]
  split_ifs <;> simp <;> omega

theorem isValidChar_toNat (character : Char) :
    character.toNat < 0xD800 ∨ 0xDFFF < character.toNat ∧ character.toNat < 0x110000 :=
  character.valid

theorem toNat_byte {value : Nat} (small : value < 0x100) : (UInt8.ofNat value).toNat = value := by
  rw [UInt8.toNat_ofNat', Nat.mod_eq_of_lt small]

theorem byte_eq {value : Nat} {byte : UInt8} (same : value = byte.toNat) :
    UInt8.ofNat value = byte := by
  rw [same, UInt8.ofNat_toNat]

/-- A longer character is read if its first byte calls for its further bytes and its bits are
theirs. -/
theorem utf8Piece_of_further {character : Char} {first : UInt8} {further : List UInt8}
    {low high : Nat} (lead : utf8Lead? first.toNat = some (further.length, low, high))
    (are : AreFurther low high further)
    (bits : furtherBits (first.toNat % Nat.pow 2 (6 - further.length)) further = character.toNat)
    (more : List UInt8) :
    utf8Piece first (further ++ more) = (.ok character, further.length) := by
  have large : ¬first.toNat < 0x80 := by
    have := (utf8Lead?_eq_some_iff.mp lead).1
    omega
  have read : utf8Rest (first.toNat % Nat.pow 2 (6 - further.length)) further.length low high
      (further ++ more) = (.ok character.toNat, further.length) :=
    utf8Rest_eq_ok_iff.mpr ⟨rfl, further, more, rfl, rfl, are, bits.symm⟩
  simp only [utf8Piece, if_neg large, lead, read, Except.map, Char.ofNat_toNat]

theorem toNat_furtherByte (bits : Nat) :
    (UInt8.ofNat (0x80 + bits % 0x40)).toNat = 0x80 + bits % 0x40 :=
  toNat_byte (by omega)

/-- The bytes of a character are read as the character. -/
theorem utf8Piece_utf8Char {character : Char} {first : UInt8} {further : List UInt8}
    (encoded : utf8Char character = first :: further) (more : List UInt8) :
    utf8Piece first (further ++ more) = (.ok character, further.length) := by
  have valid := isValidChar_toNat character
  simp only [utf8Char] at encoded
  split_ifs at encoded with one two three
  · cases encoded
    have first : (UInt8.ofNat character.toNat).toNat = character.toNat := toNat_byte (by omega)
    simp only [utf8Piece, first, if_pos one, Char.ofNat_toNat, List.length_nil]
  · cases encoded
    have first : (UInt8.ofNat (0xC0 + character.toNat / 0x40)).toNat =
      0xC0 + character.toNat / 0x40 := toNat_byte (by omega)
    refine utf8Piece_of_further (utf8Lead?_eq_some_iff.mpr ⟨?_, ?_, ?_, rfl, rfl⟩) ?_ ?_ more
    all_goals simp only [AreFurther, furtherBits, first, toNat_furtherByte, List.length_cons,
      List.length_nil, List.not_mem_nil, false_imp_iff, implies_true, and_true, List.foldl_cons,
      List.foldl_nil, Nat.reduceAdd, Nat.reduceSub, Nat.pow_eq, Nat.reducePow]
    all_goals first | omega | (split_ifs <;> omega)
  · cases encoded
    have first : (UInt8.ofNat (0xE0 + character.toNat / 0x1000)).toNat =
      0xE0 + character.toNat / 0x1000 := toNat_byte (by omega)
    refine utf8Piece_of_further (utf8Lead?_eq_some_iff.mpr ⟨?_, ?_, ?_, rfl, rfl⟩) ?_ ?_ more
    all_goals simp only [AreFurther, furtherBits, first, toNat_furtherByte, List.length_cons,
      List.length_nil, List.mem_singleton, forall_eq, List.foldl_cons, List.foldl_nil,
      Nat.reduceAdd, Nat.reduceSub, Nat.pow_eq, Nat.reducePow]
    all_goals first | omega | (split_ifs <;> omega)
  · cases encoded
    have first : (UInt8.ofNat (0xF0 + character.toNat / 0x40000)).toNat =
      0xF0 + character.toNat / 0x40000 := toNat_byte (by omega)
    refine utf8Piece_of_further (utf8Lead?_eq_some_iff.mpr ⟨?_, ?_, ?_, rfl, rfl⟩) ?_ ?_ more
    all_goals simp only [AreFurther, furtherBits, first, toNat_furtherByte, List.length_cons,
      List.length_nil, List.mem_cons, List.not_mem_nil, or_false, forall_eq_or_imp, forall_eq,
      List.foldl_cons, List.foldl_nil, Nat.reduceAdd, Nat.reduceSub, Nat.pow_eq, Nat.reducePow]
    all_goals first | omega | (split_ifs <;> omega)

theorem toNat_ofNat {code : Nat} (valid : code < 0xD800 ∨ 0xDFFF < code ∧ code < 0x110000) :
    (Char.ofNat code).toNat = code := by
  rw [Char.toNat_ofNat, if_pos valid]

/-- The bits of further bytes behind their first byte are those of a character with these bytes. -/
theorem utf8Char_furtherBits {first : UInt8} {further : List UInt8} {low high : Nat}
    (lead : utf8Lead? first.toNat = some (further.length, low, high))
    (are : AreFurther low high further) :
    utf8Char (Char.ofNat (furtherBits (first.toNat % Nat.pow 2 (6 - further.length)) further)) =
      first :: further := by
  rcases utf8Lead?_eq_some_iff.mp lead with ⟨least, greatest, due, rfl, rfl⟩
  -- The first byte says how many further bytes there are.
  split_ifs at due with two three
  · rcases List.length_eq_one_iff.mp due with ⟨second, rfl⟩
    generalize value_eq : furtherBits _ [second] = value
    simp only [AreFurther, furtherBits, List.length_cons, List.length_nil, List.foldl_cons,
      List.foldl_nil, Nat.reduceAdd, Nat.reduceSub, Nat.pow_eq, Nat.reducePow] at are value_eq
    have secondRange : 0x80 ≤ second.toNat ∧ second.toNat ≤ 0xBF := by
      split_ifs at are <;> omega
    have code : (Char.ofNat value).toNat = value := toNat_ofNat (by omega)
    rw [utf8Char, code, if_neg (by omega), if_pos (by omega)]
    simp only [List.cons.injEq, and_true]
    exact ⟨byte_eq (by omega), byte_eq (by omega)⟩
  · rcases List.length_eq_two.mp due with ⟨second, third, rfl⟩
    generalize value_eq : furtherBits _ [second, third] = value
    simp only [AreFurther, furtherBits, List.length_cons, List.length_nil, List.foldl_cons,
      List.foldl_nil, List.mem_singleton, forall_eq, Nat.reduceAdd, Nat.reduceSub, Nat.pow_eq,
      Nat.reducePow] at are value_eq
    have ranges : 0x800 ≤ value ∧ (value < 0xD800 ∨ 0xDFFF < value) ∧
        0x80 ≤ second.toNat ∧ second.toNat ≤ 0xBF := by
      split_ifs at are <;> omega
    have code : (Char.ofNat value).toNat = value := toNat_ofNat (by omega)
    rw [utf8Char, code, if_neg (by omega), if_neg (by omega), if_pos (by omega)]
    simp only [List.cons.injEq, and_true]
    exact ⟨byte_eq (by omega), byte_eq (by omega), byte_eq (by omega)⟩
  · rcases List.length_eq_three.mp due with ⟨second, third, fourth, rfl⟩
    generalize value_eq : furtherBits _ [second, third, fourth] = value
    simp only [AreFurther, furtherBits, List.length_cons, List.length_nil, List.foldl_cons,
      List.foldl_nil, List.mem_cons, List.not_mem_nil, or_false, forall_eq_or_imp, forall_eq,
      Nat.reduceAdd, Nat.reduceSub, Nat.pow_eq, Nat.reducePow] at are value_eq
    have ranges : 0x10000 ≤ value ∧ value < 0x110000 ∧
        0x80 ≤ second.toNat ∧ second.toNat ≤ 0xBF := by
      split_ifs at are <;> omega
    have code : (Char.ofNat value).toNat = value := toNat_ofNat (by omega)
    rw [utf8Char, code, if_neg (by omega), if_neg (by omega), if_neg (by omega)]
    simp only [List.cons.injEq, and_true]
    exact ⟨byte_eq (by omega), byte_eq (by omega), byte_eq (by omega), byte_eq (by omega)⟩

/-- A piece that is a character consists of the bytes of this character. -/
theorem utf8Char_of_utf8Piece {character : Char} {first : UInt8} {bytes : List UInt8} {taken : Nat}
    (read : utf8Piece first bytes = (.ok character, taken)) : ∃ further more,
      bytes = further ++ more ∧ taken = further.length ∧ utf8Char character = first :: further := by
  simp only [utf8Piece] at read
  split_ifs at read with one
  · cases read
    refine ⟨[], bytes, rfl, rfl, ?_⟩
    rw [utf8Char, toNat_ofNat (Or.inl (by omega)), if_pos one, UInt8.ofNat_toNat]
  split at read
  · cases read
  next due low high lead =>
  cases rested : utf8Rest (first.toNat % Nat.pow 2 (6 - due)) due low high bytes with
  | mk result count =>
      rw [rested] at read
      cases result with
      | error fault => cases read
      | ok value =>
          cases read
          rcases utf8Rest_eq_ok_iff.mp rested with ⟨rfl, further, more, rfl, rfl, are, rfl⟩
          exact ⟨further, more, rfl, rfl, utf8Char_furtherBits lead are⟩

theorem exists_utf8Char_eq (character : Char) :
    ∃ first further, utf8Char character = first :: further := by
  simp only [utf8Char]
  split_ifs <;> exact ⟨_, _, rfl⟩

/-! ## Texts -/

theorem utf8_cons (character : Char) (text : List Char) :
    utf8 (character :: text) = utf8Char character ++ utf8 text :=
  List.flatMap_cons

theorem utf8_append (front text : List Char) : utf8 (front ++ text) = utf8 front ++ utf8 text :=
  List.flatMap_append

/-- The pieces of a text are its characters. -/
theorem utf8Pieces_utf8 (text : List Char) :
    utf8Pieces (utf8 text) = text.map fun character =>
      (.ok character, (utf8Char character).length) := by
  induction text with
  | nil => simp [utf8, utf8Pieces]
  | cons character text ih =>
      rcases exists_utf8Char_eq character with ⟨first, further, encoded⟩
      rw [utf8_cons, encoded, List.cons_append, utf8Pieces]
      simp only [utf8Piece_utf8Char encoded, List.drop_left, ih, List.map_cons, encoded,
        List.length_cons]

theorem wholePieces_map (position : Nat) (text : List Char) (length : Char → Nat) :
    wholePieces position (text.map fun character => (.ok character, length character)) =
      .ok text := by
  induction text generalizing position with
  | nil => rfl
  | cons character text ih => rw [List.map_cons, wholePieces, ih]

theorem wholePieces_eq_ok_cons_iff {position : Nat} {piece : Except Utf8Fault Char × Nat}
    {pieces : List (Except Utf8Fault Char × Nat)} {text : List Char} :
    wholePieces position (piece :: pieces) = .ok text ↔ ∃ character characters,
      text = character :: characters ∧ piece.1 = .ok character ∧
        wholePieces (position + piece.2) pieces = .ok characters := by
  rcases piece with ⟨result, length⟩
  cases result with
  | error fault => simp [wholePieces]
  | ok first =>
      rw [wholePieces]
      cases wholePieces (position + length) pieces with
      | error fault => simp
      | ok characters => simp [eq_comm]

theorem eq_utf8_of_wholePieces {position : Nat} {bytes : List UInt8} {text : List Char}
    (read : wholePieces position (utf8Pieces bytes) = .ok text) : bytes = utf8 text := by
  induction text generalizing position bytes with
  | nil =>
      cases bytes with
      | nil => rfl
      | cons first rest =>
          rw [utf8Pieces, wholePieces_eq_ok_cons_iff] at read
          rcases read with ⟨_, _, impossible, _⟩
          cases impossible
  | cons character text ih =>
      cases bytes with
      | nil =>
          rw [utf8Pieces] at read
          cases read
      | cons first rest =>
          rw [utf8Pieces, wholePieces_eq_ok_cons_iff] at read
          rcases read with ⟨_, _, same, isCharacter, later⟩
          cases same
          have piece : utf8Piece first rest = (.ok character, (utf8Piece first rest).2) :=
            Prod.ext isCharacter rfl
          rcases utf8Char_of_utf8Piece piece with ⟨further, more, rfl, taken, encoded⟩
          simp only [taken, List.drop_left] at later
          rw [ih later, utf8_cons, encoded, List.cons_append]

/-- The bytes that can be read strictly are those of texts. -/
theorem utf8Strict_eq_ok_iff {bytes : List UInt8} {text : List Char} :
    utf8Strict bytes = .ok text ↔ bytes = utf8 text := by
  constructor
  · exact eq_utf8_of_wholePieces
  · rintro rfl
    rw [utf8Strict, utf8Pieces_utf8, wholePieces_map]

/-- Nothing is lost where nothing is broken. -/
theorem utf8Lossy_utf8 (text : List Char) : utf8Lossy (utf8 text) = text := by
  rw [utf8Lossy, utf8Pieces_utf8, List.map_map]
  exact List.map_id text

end Rulebook.Text
