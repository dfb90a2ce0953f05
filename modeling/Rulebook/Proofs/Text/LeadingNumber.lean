import Mathlib
import Rulebook.Condition
import Rulebook.Proofs.Json.Numbers

/-!
# The number in front of a text

A text begins with a number if, once it is trimmed, a run of digits stands at its beginning or
behind one sign. The digits may be those of any scripts, and the run ends where the text does not go
on with a digit. The text is read leniently as this number, as zero if the sign is a minus, and as
zero without a number. So what follows the run does not count, and the decimal text of an integer is
read as the integer, or as zero if it is negative.
-/

namespace Rulebook

namespace Text

/-- The value of a digit. -/
def valueOf (digit : Char) : Nat :=
  (digitValue? digit).getD 0

/-- The number that digits denote, of which the last counts ones. -/
def numberOf (digits : List Char) : Nat :=
  Nat.ofDigits 10 (digits.reverse.map valueOf)

/-- The text does not begin with a digit of any script. -/
def NoDigitFirst (text : List Char) : Prop :=
  ∀ character rest, text = character :: rest → isDigit character = false

/-- A sign, or none. -/
inductive IsSign : List Char → (negative : Bool) → Prop
  | none : IsSign [] false
  | plus : IsSign ['+'] false
  | minus : IsSign ['-'] true

end Text

/-- The text consists of a sign or none, of some digits, and of a rest that does not go on with a
digit. -/
structure BeginsWithNumber (text : List Char) (negative : Bool) (digits rest : List Char) :
    Prop where
  signed : ∃ sign, Text.IsSign sign negative ∧ text = sign ++ (digits ++ rest)
  filled : digits ≠ []
  areDigits : ∀ character ∈ digits, Text.isDigit character = true
  ends : Text.NoDigitFirst rest

namespace Text

/-! ## Runs of digits -/

theorem digitRun_eq (text : List Char) : digitRun text = (text.takeWhile isDigit).map valueOf := by
  induction text with
  | nil => rfl
  | cons first rest ih =>
      rw [digitRun, List.takeWhile_cons, isDigit]
      cases value : digitValue? first with
      | none => rfl
      | some number => simp [ih, valueOf, value]

theorem takeWhile_isDigit_append {digits rest : List Char}
    (areDigits : ∀ character ∈ digits, isDigit character = true) (ends : NoDigitFirst rest) :
    (digits ++ rest).takeWhile isDigit = digits := by
  rw [List.takeWhile_append_of_pos areDigits]
  cases rest with
  | nil => simp
  | cons first more => simp [ends first more rfl]

theorem noDigitFirst_nil : NoDigitFirst [] := by
  intro character rest impossible
  cases impossible

theorem noDigitFirst_dropWhile (text : List Char) : NoDigitFirst (text.dropWhile isDigit) := by
  intro character rest split
  have stops := List.head?_dropWhile_not isDigit text
  rw [split] at stops
  simpa using stops

theorem numberOfDigits_map_valueOf (digits : List Char) :
    numberOfDigits (digits.map valueOf) = numberOf digits := by
  rw [numberOfDigits, numberInBase, numberOf, Nat.ofDigits_eq_foldr, List.map_reverse,
    List.foldr_reverse]
  simp only [Nat.cast_id, add_comm]

theorem numberOf_decimal (number : Nat) : numberOf (decimal number) = number := by
  have whole : (decimal number).takeWhile isDigit = decimal number :=
    List.takeWhile_eq_self_iff.mpr fun character mem =>
      isDigit_of_isPlainDigit (isPlainDigit_of_mem_decimal number character mem)
  have read := numberOfDigits_digitRun_decimal number
  rwa [digitRun_eq, whole, numberOfDigits_map_valueOf] at read

theorem valueOf_lt (digit : Char) : valueOf digit < 10 := by
  rw [valueOf, digitValue?]
  split
  · split
    · next plain =>
      rw [Option.getD_some]
      omega
    · decide
  · cases found : digitZeros.find? fun first =>
        first ≤ digit.toNat && digit.toNat < first + 10 with
    | none => simp
    | some first =>
        have inside := List.find?_some found
        simp only [Bool.and_eq_true, decide_eq_true_eq] at inside
        rw [Option.map_some, Option.getD_some]
        omega

/-- Digits denote a number that has no more decimal digits than they are. -/
theorem numberOf_lt (digits : List Char) : numberOf digits < 10 ^ digits.length := by
  have each : ∀ value ∈ digits.reverse.map valueOf, value < 10 := by
    intro value mem
    rcases List.mem_map.mp mem with ⟨digit, _, rfl⟩
    exact valueOf_lt digit
  have below := Nat.ofDigits_lt_base_pow_length (by decide) each
  rwa [List.length_map, List.length_reverse] at below

theorem NoDigitFirst.trimEnd {text : List Char} (ends : NoDigitFirst text) :
    NoDigitFirst (Text.trimEnd text) := by
  intro character rest split
  obtain ⟨dropped, whole⟩ : Text.trimEnd text <+: text := List.rdropWhile_prefix isBlank text
  exact ends character (rest ++ dropped) (by rw [← whole, split, List.cons_append])

end Text

/-! ## Reading the number -/

namespace BeginsWithNumber

variable {text digits rest : List Char} {negative : Bool}

theorem leadingInteger? (begins : BeginsWithNumber text negative digits rest) :
    leadingInteger? text = some (negative, digits.map Text.valueOf) := by
  rcases begins with ⟨⟨sign, isSign, rfl⟩, filled, areDigits, ends⟩
  have run : Text.digitRun (digits ++ rest) = digits.map Text.valueOf := by
    rw [Text.digitRun_eq, Text.takeWhile_isDigit_append areDigits ends]
  cases isSign with
  | none =>
      rcases List.exists_cons_of_ne_nil filled with ⟨first, more, rfl⟩
      have isDigit := areDigits first List.mem_cons_self
      have noMinus : first ≠ '-' := by rintro rfl; exact absurd isDigit (by decide)
      have noPlus : first ≠ '+' := by rintro rfl; exact absurd isDigit (by decide)
      simp only [List.nil_append, List.cons_append] at run ⊢
      simp [Rulebook.leadingInteger?, noMinus, noPlus, run]
  | plus => simp [Rulebook.leadingInteger?, run, filled]
  | minus => simp [Rulebook.leadingInteger?, run, filled]

/-- Behind a sign, or none, the digits that a text begins with are a number if there are any. -/
theorem of_digitRun {sign body : List Char} (isSign : Text.IsSign sign negative)
    (filled : Text.digitRun body ≠ []) :
    BeginsWithNumber (sign ++ body) negative (body.takeWhile Text.isDigit)
      (body.dropWhile Text.isDigit) where
  signed := ⟨sign, isSign, by rw [List.takeWhile_append_dropWhile]⟩
  filled := by
    rwa [Text.digitRun_eq, ne_eq, List.map_eq_nil_iff] at filled
  areDigits _ mem := List.mem_takeWhile_imp mem
  ends := Text.noDigitFirst_dropWhile body

theorem of_leadingInteger? {values : List Nat}
    (leads : Rulebook.leadingInteger? text = some (negative, values)) :
    ∃ digits rest, BeginsWithNumber text negative digits rest := by
  obtain ⟨sign, body, isSign, rfl, filled⟩ : ∃ sign body, Text.IsSign sign negative ∧
      text = sign ++ body ∧ Text.digitRun body ≠ [] := by
    have guarded {run : List Nat} {minus : Bool}
        (given : (if run.isEmpty then none else some (minus, run)) = some (negative, values)) :
        run ≠ [] ∧ minus = negative := by
      split at given
      · cases given
      · next filled =>
        cases given
        exact ⟨by simpa using filled, rfl⟩
    simp only [Rulebook.leadingInteger?] at leads
    split at leads
    · rcases guarded leads with ⟨filled, rfl⟩
      exact ⟨['-'], _, .minus, rfl, filled⟩
    · rcases guarded leads with ⟨filled, rfl⟩
      exact ⟨['+'], _, .plus, rfl, filled⟩
    · rcases guarded leads with ⟨filled, rfl⟩
      exact ⟨[], _, .none, rfl, filled⟩
  exact ⟨_, _, of_digitRun isSign filled⟩

end BeginsWithNumber

theorem leadingInteger?_eq_none {text : List Char}
    (noNumber : ¬∃ negative digits rest, BeginsWithNumber text negative digits rest) :
    leadingInteger? text = none := by
  cases leads : leadingInteger? text with
  | none => rfl
  | some number =>
      rcases BeginsWithNumber.of_leadingInteger? leads with ⟨digits, rest, begins⟩
      exact absurd ⟨_, digits, rest, begins⟩ noNumber

section Lenient

variable {text digits rest : List Char} {negative : Bool}

theorem lenientNat_of_begins (begins : BeginsWithNumber (Text.trim text) negative digits rest)
    (short : digits.length ≤ Json.digitLimit) :
    lenientNat text = .ok (if negative then 0 else Text.numberOf digits) := by
  have converted : ¬Json.digitLimit < (digits.map Text.valueOf).length := by
    rw [List.length_map]
    exact Nat.not_lt.mpr short
  rw [lenientNat, begins.leadingInteger?]
  simp only [if_neg converted, Text.numberOfDigits_map_valueOf]

theorem lenientNat_of_noNumber
    (noNumber : ¬∃ negative digits rest, BeginsWithNumber (Text.trim text) negative digits rest) :
    lenientNat text = .ok 0 := by
  rw [lenientNat, leadingInteger?_eq_none noNumber]

/-- Digits of ASCII are a number by themselves. -/
theorem BeginsWithNumber.of_isPlainDigit (filled : digits ≠ [])
    (plain : ∀ character ∈ digits, Json.isPlainDigit character = true) :
    BeginsWithNumber digits false digits [] where
  signed := ⟨[], .none, by simp⟩
  filled := filled
  areDigits character mem := Text.isDigit_of_isPlainDigit (plain character mem)
  ends := Text.noDigitFirst_nil

/-- The decimal text of an integer is one number. -/
theorem begins_signedDecimal (number : Int) :
    BeginsWithNumber (Text.signedDecimal number) (decide (number < 0))
      (Text.decimal number.natAbs) [] where
  signed := by
    rw [Json.signedDecimal_eq, List.append_nil]
    by_cases negative : number < 0
    · exact ⟨['-'], by simpa [negative] using Text.IsSign.minus, by simp [negative]⟩
    · exact ⟨[], by simpa [negative] using Text.IsSign.none, by simp [negative]⟩
  filled := Text.decimal_ne_nil _
  areDigits character mem :=
    Text.isDigit_of_isPlainDigit (Text.isPlainDigit_of_mem_decimal _ character mem)
  ends := Text.noDigitFirst_nil

theorem BeginsWithNumber.noBlankHead (begins : BeginsWithNumber text negative digits rest) :
    Text.NoBlankHead text := by
  rcases begins with ⟨⟨sign, isSign, rfl⟩, filled, areDigits, _⟩
  intro first more split
  cases isSign with
  | none =>
      rcases List.exists_cons_of_ne_nil filled with ⟨digit, later, rfl⟩
      rcases List.cons_eq_cons.mp split with ⟨rfl, _⟩
      exact Text.isBlank_of_isDigit (areDigits _ List.mem_cons_self)
  | plus =>
      rcases List.cons_eq_cons.mp split with ⟨rfl, _⟩
      rfl
  | minus =>
      rcases List.cons_eq_cons.mp split with ⟨rfl, _⟩
      rfl

theorem BeginsWithNumber.noBlankLast (begins : BeginsWithNumber text negative digits []) :
    Text.NoBlankLast text := by
  rcases begins with ⟨⟨sign, _, rfl⟩, filled, areDigits, _⟩
  rw [List.append_nil]
  refine Text.NoBlankLast.append ?_ filled
  rintro front last rfl
  exact Text.isBlank_of_isDigit (areDigits last (by simp))

theorem lenientNat_signedDecimal {number : Int}
    (short : (Text.decimal number.natAbs).length ≤ Json.digitLimit) :
    lenientNat (Text.signedDecimal number) = .ok (max number 0).toNat := by
  have begins := begins_signedDecimal number
  rw [← Text.trim_eq_self_iff.mpr ⟨begins.noBlankHead, begins.noBlankLast⟩] at begins
  rw [lenientNat_of_begins begins short, Text.numberOf_decimal]
  by_cases negative : number < 0
  · simp [negative, negative.le]
  · rw [if_neg (by simpa using negative), max_eq_left (not_lt.mp negative)]
    congr 1
    omega

theorem lenientNat_decimal {number : Nat}
    (short : (Text.decimal number).length ≤ Json.digitLimit) :
    lenientNat (Text.decimal number) = .ok number := by
  have natural : ¬(number : Int) < 0 := by omega
  have read : lenientNat (Text.signedDecimal number) = .ok (max (number : Int) 0).toNat :=
    lenientNat_signedDecimal short
  simpa [Json.signedDecimal_eq, natural] using read

/-- What a text is read as is zero or the number in front of it, and this has no minus. -/
theorem eq_zero_or_begins_of_lenientNat {number : Nat} (read : lenientNat text = .ok number) :
    number = 0 ∨ ∃ digits rest, BeginsWithNumber (Text.trim text) false digits rest ∧
      digits.length ≤ Json.digitLimit ∧ number = Text.numberOf digits := by
  by_cases begun : ∃ negative digits rest, BeginsWithNumber (Text.trim text) negative digits rest
  · rcases begun with ⟨negative, digits, rest, begins⟩
    have short : digits.length ≤ Json.digitLimit := by
      by_contra long
      rw [lenientNat, begins.leadingInteger?] at read
      simp only [List.length_map, Nat.not_le.mp long, if_true] at read
      cases read
    rw [lenientNat_of_begins begins short] at read
    cases read
    cases negative with
    | true => exact Or.inl rfl
    | false => exact Or.inr ⟨digits, rest, begins, short, rfl⟩
  · rw [lenientNat_of_noNumber begun] at read
    cases read
    exact Or.inl rfl

/-- A number that is read from a text can be written and read again. -/
theorem isShort_of_lenientNat {number : Nat} (read : lenientNat text = .ok number) :
    Json.IsShort number := by
  rcases eq_zero_or_begins_of_lenientNat read with rfl | ⟨digits, rest, begins, short, rfl⟩
  · decide +kernel
  · refine le_trans (Text.length_decimal_le ?_ (Text.numberOf_lt digits)) short
    exact List.length_pos_iff.mpr begins.filled |>.ne'

/-- What is put behind a number does not count, unless it begins with a digit. -/
theorem BeginsWithNumber.append (begins : BeginsWithNumber (Text.trimStart text) negative digits [])
    {more : List Char} (ends : Text.NoDigitFirst more) :
    BeginsWithNumber (Text.trim (text ++ more)) negative digits (Text.trimEnd more) := by
  have trimmed : Text.trim (text ++ more) = Text.trimStart text ++ Text.trimEnd more := by
    have filled : ¬(Text.trimStart text).isEmpty := by
      rcases begins with ⟨⟨sign, _, split⟩, filled, _, _⟩
      simp [split, filled]
    rw [Text.trim, ← Text.trimEnd_append begins.noBlankLast, Text.trimStart, List.dropWhile_append]
    exact congrArg Text.trimEnd (if_neg filled)
  rcases begins with ⟨⟨sign, isSign, split⟩, filled, areDigits, _⟩
  refine ⟨⟨sign, isSign, ?_⟩, filled, areDigits, ends.trimEnd⟩
  rw [trimmed, split]
  simp

theorem lenientNat_append (begins : BeginsWithNumber (Text.trimStart text) negative digits [])
    {more : List Char} (ends : Text.NoDigitFirst more) :
    lenientNat (text ++ more) = lenientNat text := by
  have alone := begins.append Text.noDigitFirst_nil
  rw [List.append_nil] at alone
  rw [lenientNat, lenientNat, (begins.append ends).leadingInteger?, alone.leadingInteger?]

end Lenient

/-- A text is read leniently as the number in front of it, as zero if that is negative, and as zero
without a number. The decimal text of an integer stands for the integer, or for zero if it is
negative, and whatever follows the digits of a number changes nothing. -/
theorem lenientNatOf_leading_number (text : String) :
    (∀ negative digits rest, BeginsWithNumber (Text.trim text.toList) negative digits rest →
      digits.length ≤ Json.digitLimit →
      lenientNatOf (.str text) = .ok (if negative then 0 else Text.numberOf digits)) ∧
    ((¬∃ negative digits rest, BeginsWithNumber (Text.trim text.toList) negative digits rest) →
      lenientNatOf (.str text) = .ok 0) ∧
    (∀ number : Int, (Text.decimal number.natAbs).length ≤ Json.digitLimit →
      lenientNatOf (.str (String.ofList (Text.signedDecimal number))) =
        .ok (max number 0).toNat) ∧
    (∀ negative digits, BeginsWithNumber (Text.trimStart text.toList) negative digits [] →
      ∀ more : String, Text.NoDigitFirst more.toList →
        lenientNatOf (.str (text ++ more)) = lenientNatOf (.str text)) := by
  have lenient (text : String) : lenientNatOf (.str text) = lenientNat text.toList :=
    congrArg lenientNat (Json.filledText_str text)
  simp only [lenient, String.toList_append, String.toList_ofList]
  exact ⟨fun _ _ _ begins short => lenientNat_of_begins begins short, lenientNat_of_noNumber,
    fun _ short => lenientNat_signedDecimal short,
    fun _ _ begins _ ends => lenientNat_append begins ends⟩

/-- A number with digits of two scripts, a text without one, a negative integer, and a number with a
unit behind it. -/
theorem lenientNatOf_leading_number_mixed :
    BeginsWithNumber (Text.trim " +1٢x".toList) false ['1', '٢'] ['x'] ∧
      lenientNatOf (.str " +1٢x") = .ok 12 ∧
      lenientNatOf (.str "x1") = .ok 0 ∧
      lenientNatOf (.str (String.ofList (Text.signedDecimal (-12)))) = .ok 0 ∧
      lenientNatOf (.str ("15" ++ " min")) = lenientNatOf (.str "15") := by
  have pair {first second : Char} (one : Text.isDigit first = true)
      (other : Text.isDigit second = true) :
      ∀ character ∈ [first, second], Text.isDigit character = true := by
    simp [one, other]
  have mixed : BeginsWithNumber (Text.trim " +1٢x".toList) false ['1', '٢'] ['x'] := by
    refine ⟨⟨['+'], .plus, by decide +kernel⟩, List.cons_ne_nil _ _, pair rfl rfl, ?_⟩
    rintro _ _ ⟨⟩
    decide
  have minutes : BeginsWithNumber (Text.trimStart "15".toList) false ['1', '5'] [] :=
    ⟨⟨[], .none, by decide +kernel⟩, List.cons_ne_nil _ _, pair rfl rfl, Text.noDigitFirst_nil⟩
  have noNumber : ¬∃ negative digits rest,
      BeginsWithNumber (Text.trim "x1".toList) negative digits rest := by
    rintro ⟨negative, digits, rest, begins⟩
    have nothing : leadingInteger? (Text.trim "x1".toList) = none := by decide +kernel
    cases nothing.symm.trans begins.leadingInteger?
  have unit : Text.NoDigitFirst " min".toList := by
    intro first rest split
    cases (List.cons_eq_cons.mp split).1
    decide
  refine ⟨mixed, ?_, (lenientNatOf_leading_number "x1").2.1 noNumber,
    (lenientNatOf_leading_number "").2.2.1 (-12) (by decide +kernel),
    (lenientNatOf_leading_number "15").2.2.2 _ _ minutes " min" unit⟩
  have denoted : Text.numberOf ['1', '٢'] = 12 := by decide +kernel
  rw [(lenientNatOf_leading_number " +1٢x").1 _ _ _ mixed (by decide), denoted]
  rfl

end Rulebook
