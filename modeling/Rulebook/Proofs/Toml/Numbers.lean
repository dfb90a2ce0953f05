import Mathlib
import Rulebook.Proofs.Json.Layout
import Rulebook.Toml.Scanner

/-!
# Binary numbers in TOML

The text of a finite binary number is read as that number. Behind its first digits stands a point
or the mark of an exponent, so it is neither the beginning of a date or a time of day nor a number
in another base, and the digits are those of a decimal number that is rounded to the number.
-/

namespace Rulebook.Toml

open Json (ArePlainDigits IsNumeral IsWholePart isPlainDigit plainNumber)

/-! ## Runs of digits -/

/-- What follows a run of digits: nothing that can be taken for more of it. -/
def EndsDigits (rest : List Char) : Prop :=
  ∀ first more, rest = first :: more → isPlainDigit first = false ∧ first ≠ '_'

theorem endsDigits_cons (first : Char) (other : isPlainDigit first = false ∧ first ≠ '_')
    (rest : List Char) : EndsDigits (first :: rest) := by
  intro character more same
  cases same
  exact other

/-- The values of plain digits. -/
def digitValues (digits : List Char) : List Nat :=
  digits.map fun digit => digit.toNat - 0x30

theorem plainDigitValue?_of_isPlainDigit {character : Char}
    (digit : isPlainDigit character = true) :
    Text.plainDigitValue? character = some (character.toNat - 0x30) := by
  simp only [isPlainDigit, Bool.and_eq_true, decide_eq_true_eq] at digit
  rw [Text.plainDigitValue?, if_pos digit]

theorem plainDigitValue?_of_not_isPlainDigit {character : Char}
    (other : isPlainDigit character = false) : Text.plainDigitValue? character = none := by
  have notDigit : ¬ ('0' ≤ character ∧ character ≤ '9') := by
    rintro ⟨lower, upper⟩
    simp [isPlainDigit, lower, upper] at other
  rw [Text.plainDigitValue?, if_neg notDigit]

theorem ne_of_isPlainDigit {digit other : Char} (plain : isPlainDigit digit = true)
    (notDigit : isPlainDigit other = false) : digit ≠ other := by
  rintro rfl
  rw [plain] at notDigit
  cases notDigit

theorem groupedDigits_cons {value? : Char → Option Nat} {first : Char} {value : Nat}
    {rest : List Char} (isDigit : value? first = some value)
    (joined : ∀ more, rest ≠ '_' :: more) :
    Text.groupedDigits value? (first :: rest) =
      (value :: (Text.groupedDigits value? rest).1, (Text.groupedDigits value? rest).2) := by
  rw [Text.groupedDigits.eq_def]
  split
  · next impossible => cases impossible
  · next same =>
    cases same
    exact absurd rfl (joined _)
  · next same =>
    cases same
    rw [isDigit]

theorem groupedDigits_of_ends {rest : List Char} (ends : EndsDigits rest) :
    Text.groupedDigits Text.plainDigitValue? rest = ([], rest) := by
  cases rest with
  | nil => rfl
  | cons first more =>
      have other := plainDigitValue?_of_not_isPlainDigit (ends first more rfl).1
      rw [Text.groupedDigits.eq_def]
      split
      · next impossible => cases impossible
      · next same =>
        cases same
        rw [other]
      · next same =>
        cases same
        rw [other]

theorem groupedDigits_append {digits rest : List Char}
    (plain : ∀ character ∈ digits, isPlainDigit character = true) (ends : EndsDigits rest) :
    Text.groupedDigits Text.plainDigitValue? (digits ++ rest) = (digitValues digits, rest) := by
  induction digits with
  | nil => exact groupedDigits_of_ends ends
  | cons first more ih =>
      rw [List.forall_mem_cons] at plain
      have joined : ∀ others, more ++ rest ≠ '_' :: others := by
        intro others same
        cases more with
        | nil => exact (ends _ _ same).2 rfl
        | cons second digits =>
            have underscore : second = '_' := (List.cons.inj same).1
            exact ne_of_isPlainDigit (plain.2 second List.mem_cons_self) (by decide) underscore
      rw [List.cons_append, groupedDigits_cons (plainDigitValue?_of_isPlainDigit plain.1) joined,
        ih plain.2]
      rfl

theorem numberOfDigits_digitValues (digits : List Char) :
    Text.numberOfDigits (digitValues digits) = plainNumber digits := by
  rw [Text.numberOfDigits, Text.numberInBase, digitValues, List.foldl_map]
  rfl

theorem digitValues_append (left right : List Char) :
    digitValues left ++ digitValues right = digitValues (left ++ right) :=
  List.map_append.symm

theorem length_digitValues (digits : List Char) : (digitValues digits).length = digits.length :=
  List.length_map _

theorem exists_digitValues_eq_cons {digits : List Char} (filled : digits ≠ []) :
    ∃ value values, digitValues digits = value :: values := by
  rcases List.exists_cons_of_ne_nil filled with ⟨first, more, rfl⟩
  exact ⟨_, _, rfl⟩

/-! ## Decimal numbers -/

theorem cutSign_append (negative : Bool) {first : Char} (digit : isPlainDigit first = true)
    (rest : List Char) :
    Text.cutSign ((if negative then ['-'] else []) ++ first :: rest) =
      (negative, first :: rest) := by
  cases negative with
  | true => rfl
  | false =>
      rw [if_neg Bool.false_ne_true, List.nil_append, Text.cutSign.eq_def]
      split
      · next same =>
        exact absurd (List.cons.inj same).1 (ne_of_isPlainDigit digit (by decide))
      · next same =>
        exact absurd (List.cons.inj same).1 (ne_of_isPlainDigit digit (by decide))
      · rfl

theorem scanWhole?_append {digits rest : List Char} (whole : IsWholePart digits)
    (ends : EndsDigits rest) : scanWhole? (digits ++ rest) = some (digitValues digits, rest) := by
  have grouped := groupedDigits_append whole.plain ends
  rw [scanWhole?.eq_def]
  split
  · next after leading =>
    rcases List.exists_cons_of_ne_nil whole.filled with ⟨first, more, split⟩
    rw [split, List.cons_append, List.cons_eq_cons] at leading
    rw [leading.1] at split
    rw [split, ← leading.2, whole.leading more split]
    rfl
  · rcases exists_digitValues_eq_cons whole.filled with ⟨value, values, split⟩
    rw [split] at grouped ⊢
    rw [grouped]

theorem scanDecimals?_append {decimals rest : List Char} (areDecimals : ArePlainDigits decimals)
    (ends : EndsDigits rest) :
    scanDecimals? ('.' :: decimals ++ rest) = some (digitValues decimals, rest) := by
  have grouped := groupedDigits_append areDecimals.2 ends
  rcases exists_digitValues_eq_cons areDecimals.1 with ⟨value, values, split⟩
  rw [split] at grouped ⊢
  simp only [scanDecimals?, List.cons_append, grouped]

theorem scanExponent?_append (negative : Bool) {digits rest : List Char}
    (areDigits : ArePlainDigits digits) (ends : EndsDigits rest) :
    scanExponent? ('e' :: (if negative then '-' else '+') :: digits ++ rest) =
      some (if negative then -(plainNumber digits : Int) else plainNumber digits, rest) := by
  have number := numberOfDigits_digitValues digits
  have grouped := groupedDigits_append areDigits.2 ends
  rcases exists_digitValues_eq_cons areDigits.1 with ⟨value, values, split⟩
  rw [split] at grouped number
  cases negative <;> simp [scanExponent?, Text.cutSign, grouped, number]

/-- The text of a number with a point or an exponent is read as what its digits denote. -/
theorem scanDecimal?_append {text : List Char} {digits : Nat} {power : Int}
    (numeral : IsNumeral text digits power) (negative : Bool) (rest : List Char) :
    scanDecimal? ((if negative then ['-'] else []) ++ (text ++ '\n' :: rest)) =
      some (.ok (real (Binary64.ofDecimal negative digits power), '\n' :: rest)) := by
  have head : ∀ {whole : List Char}, IsWholePart whole → ∀ after,
      Text.cutSign ((if negative then ['-'] else []) ++ (whole ++ after)) =
        (negative, whole ++ after) := by
    intro whole isWhole after
    rcases List.exists_cons_of_ne_nil isWhole.filled with ⟨first, more, rfl⟩
    exact cutSign_append negative (isWhole.plain first List.mem_cons_self) (more ++ after)
  have lineEnd : EndsDigits ('\n' :: rest) := endsDigits_cons '\n' (by decide) rest
  have noExponent : scanExponent? ('\n' :: rest) = none := rfl
  cases numeral with
  | @point whole decimals isWhole areDecimals =>
      have afterWhole := scanWhole?_append isWhole
        (endsDigits_cons '.' (by decide) (decimals ++ '\n' :: rest))
      have afterPoint := scanDecimals?_append areDecimals lineEnd
      rw [List.append_assoc, scanDecimal?, head isWhole]
      rw [List.cons_append] at afterPoint ⊢
      simp only [afterWhole, afterPoint, noExponent, Option.getD_some, Option.getD_none, zero_sub,
        digitValues_append, numberOfDigits_digitValues, length_digitValues]
  | @power whole digits isWhole below areDigits =>
      have afterWhole := scanWhole?_append isWhole (endsDigits_cons 'e' (by decide)
        ((if below then '-' else '+') :: digits ++ '\n' :: rest))
      have noDecimals : scanDecimals?
          ('e' :: ((if below then '-' else '+') :: digits ++ '\n' :: rest)) = none := rfl
      have afterMark := scanExponent?_append below areDigits lineEnd
      rw [List.append_assoc, scanDecimal?, head isWhole]
      rw [List.cons_append] at afterMark ⊢
      simp only [afterWhole, noDecimals, afterMark, Option.getD_some, Option.getD_none,
        List.append_nil, List.length_nil, Nat.cast_zero, sub_zero, numberOfDigits_digitValues]
  | @both whole decimals digits isWhole areDecimals below areDigits =>
      have afterWhole := scanWhole?_append isWhole (endsDigits_cons '.' (by decide)
        (decimals ++ 'e' :: (if below then '-' else '+') :: digits ++ '\n' :: rest))
      have afterPoint := scanDecimals?_append areDecimals (endsDigits_cons 'e'
        (by decide) ((if below then '-' else '+') :: digits ++ '\n' :: rest))
      have afterMark := scanExponent?_append below areDigits lineEnd
      simp only [List.append_assoc, List.cons_append] at afterWhole afterPoint afterMark ⊢
      rw [scanDecimal?, head isWhole]
      simp only [afterWhole, afterPoint, afterMark, Option.getD_some, digitValues_append,
        numberOfDigits_digitValues, length_digitValues]

/-! ## Neither a date nor a time of day -/

theorem isSome_of_mapM_eq_some {value? : Char → Option Nat} {text : List Char} {values : List Nat}
    (read : text.mapM value? = some values) : ∀ character ∈ text, (value? character).isSome := by
  induction text generalizing values with
  | nil => exact nofun
  | cons first rest ih =>
      rw [List.mapM_cons] at read
      cases firstRead : value? first with
      | none => simp [firstRead] at read
      | some value =>
          cases restRead : rest.mapM value? with
          | none => simp [firstRead, restRead] at read
          | some others =>
              rw [List.forall_mem_cons]
              exact ⟨by rw [firstRead]; rfl, ih restRead⟩

/-- A run of digits of a certain length has no other character in it. -/
theorem isPlainDigit_of_scanFixed? {count number : Nat} {text left : List Char}
    (scanned : scanFixed? count text = some (number, left)) :
    left = text.drop count ∧ ∀ character ∈ text.take count, isPlainDigit character = true := by
  rw [scanFixed?] at scanned
  split at scanned
  · next digits read =>
    split at scanned
    · refine ⟨(Prod.mk.inj (Option.some.inj scanned)).2.symm, fun character mem => ?_⟩
      by_contra other
      rw [Bool.not_eq_true] at other
      have some := isSome_of_mapM_eq_some read character mem
      rw [plainDigitValue?_of_not_isPlainDigit other] at some
      cases some
    · cases scanned
  · cases scanned

/-- No mark can follow a run of digits of a certain length if behind all digits something else
stands. -/
theorem expect?_of_scanFixed? {digits : List Char} {after mark : Char}
    (plain : ∀ character ∈ digits, isPlainDigit character = true)
    (notDigit : isPlainDigit after = false) (markNotDigit : isPlainDigit mark = false)
    (other : after ≠ mark) {count number : Nat} {rest left : List Char}
    (scanned : scanFixed? count (digits ++ after :: rest) = some (number, left)) :
    expect? mark left = none := by
  rcases isPlainDigit_of_scanFixed? scanned with ⟨rfl, allDigits⟩
  -- a longer run would hold the other character, and behind a shorter one it or a digit stands
  rcases Nat.lt_or_ge digits.length count with long | short
  · have inTaken : after ∈ (digits ++ after :: rest).take count := by
      rcases Nat.exists_eq_add_of_lt long with ⟨more, rfl⟩
      rw [Nat.add_assoc, List.take_length_add_append, List.take_succ_cons]
      exact List.mem_append_right _ List.mem_cons_self
    rw [allDigits after inTaken] at notDigit
    cases notDigit
  · rw [List.drop_append_of_le_length short]
    cases dropped : digits.drop count with
    | nil => exact if_neg other
    | cons first more =>
        have digit := plain first (List.mem_of_mem_drop (dropped ▸ List.mem_cons_self))
        exact if_neg (ne_of_isPlainDigit digit markNotDigit)

/-- A sign is no digit. -/
theorem scanFixed?_of_head {first : Char} (other : isPlainDigit first = false) (count : Nat)
    (rest : List Char) : scanFixed? (count + 1) (first :: rest) = none := by
  rcases scanned : scanFixed? (count + 1) (first :: rest) with none | ⟨number, left⟩
  · rfl
  · have digit := (isPlainDigit_of_scanFixed? scanned).2 first List.mem_cons_self
    rw [digit] at other
    cases other

theorem scanDate?_of_digits {digits : List Char} {after : Char}
    (plain : ∀ character ∈ digits, isPlainDigit character = true)
    (notDigit : isPlainDigit after = false) (other : after ≠ '-') (rest : List Char) :
    scanDate? (digits ++ after :: rest) = none := by
  rw [scanDate?]
  rcases scanned : scanFixed? 4 (digits ++ after :: rest) with none | ⟨year, left⟩
  · rfl
  · have noMark := expect?_of_scanFixed? plain notDigit (by decide) other scanned
    simp [noMark]

theorem scanTime?_of_digits {digits : List Char} {after : Char}
    (plain : ∀ character ∈ digits, isPlainDigit character = true)
    (notDigit : isPlainDigit after = false) (other : after ≠ ':') (rest : List Char) :
    scanTime? (digits ++ after :: rest) = none := by
  rw [scanTime?]
  rcases scanned : scanFixed? 2 (digits ++ after :: rest) with none | ⟨hour, left⟩
  · rfl
  · have noMark := expect?_of_scanFixed? plain notDigit (by decide) other scanned
    simp [noMark]

theorem scanBased?_of_isWholePart {whole : List Char} (isWhole : IsWholePart whole) {mark : Char}
    (other : mark = '.' ∨ mark = 'e') (after : List Char) :
    scanBased? (whole ++ mark :: after) = none := by
  rcases List.exists_cons_of_ne_nil isWhole.filled with ⟨first, more, rfl⟩
  by_cases zero : first = '0'
  · cases zero
    cases isWhole.leading more rfl
    rcases other with rfl | rfl <;> rfl
  · rw [scanBased?.eq_def]
    split
    · next same => exact absurd (List.cons.inj same).1 zero
    · next same => exact absurd (List.cons.inj same).1 zero
    · next same => exact absurd (List.cons.inj same).1 zero
    · rfl

/-! ## The text of a binary number -/

theorem scanScalar_of_scanDecimal? {text : List Char} {result : Except Fault (Toml × List Char)}
    (noWord : ∀ rest, text ≠ 't' :: rest ∧ text ≠ 'f' :: rest) (noDate : scanDate? text = none)
    (noTime : scanTime? text = none) (noBase : scanBased? text = none)
    (decimal : scanDecimal? text = some result) : scanScalar text = result := by
  rw [scanScalar.eq_def]
  split
  · exact absurd rfl (noWord _).1
  · exact absurd rfl (noWord _).2
  · rw [noDate, noTime, noBase, decimal]

/-- The text of a finite number is read as the number. -/
theorem scanScalar_text {number : Binary64} (finite : number.IsFiniteNumber)
    (rest : List Char) :
    scanScalar (number.text ++ '\n' :: rest) = .ok (real number, '\n' :: rest) := by
  rcases Json.exists_isNumeral_text finite with
    ⟨negative, magnitude, digits, power, numeral, split, rounded⟩
  have decimal := scanDecimal?_append numeral negative rest
  rw [rounded] at decimal
  rw [split, List.append_assoc]
  rcases numeral.exists_split with ⟨whole, mark, after, isWhole, isMark, rfl⟩
  rw [List.append_assoc, List.cons_append] at decimal ⊢
  cases negative with
  | true =>
      -- a sign alone tells that there is no date, time or number in another base
      have noFixed (count : Nat) (more : List Char) : scanFixed? (count + 1) ('-' :: more) = none :=
        scanFixed?_of_head (by decide) count more
      refine scanScalar_of_scanDecimal? ?_ ?_ ?_ ?_ decimal
      · exact fun _ => ⟨by simp, by simp⟩
      · simp [scanDate?, noFixed]
      · simp [scanTime?, noFixed]
      · rfl
  | false =>
      rw [if_neg Bool.false_ne_true, List.nil_append] at decimal ⊢
      have other : isPlainDigit mark = false ∧ mark ≠ '-' ∧ mark ≠ ':' := by
        rcases isMark with rfl | rfl <;> decide
      refine scanScalar_of_scanDecimal? ?_ ?_ ?_ ?_ decimal
      · intro more
        rcases List.exists_cons_of_ne_nil isWhole.filled with ⟨first, others, rfl⟩
        have digit := isWhole.plain first List.mem_cons_self
        refine ⟨fun same => ?_, fun same => ?_⟩
        · exact ne_of_isPlainDigit digit (by decide) (List.cons.inj same).1
        · exact ne_of_isPlainDigit digit (by decide) (List.cons.inj same).1
      · exact scanDate?_of_digits isWhole.plain other.1 other.2.1 _
      · exact scanTime?_of_digits isWhole.plain other.1 other.2.2 _
      · exact scanBased?_of_isWholePart isWhole isMark _

end Rulebook.Toml
