import Mathlib
import Rulebook.Proofs.Json.Steps

/-!
# Texts within reach

The reader takes texts of any nesting and replaces what is no character. Where it runs, every level
of nesting takes a call, and there is room for so many only; and half of a surrogate pair, which an
escape can denote, has no bytes and cannot be sent. Statements that come to either of them keep to
texts that nest at most `levelLimit` levels, and to texts in which no half of a pair stands alone.

Both can be seen in a text without reading it. This file says what they are and what they mean to
the reader: what is read from a text nests no deeper than the text, and no character of a literal is
replaced.
-/

namespace Rulebook.Json

/-! ## Nesting -/

/-- The number of levels for which there is room wherever JSON is read or written. -/
def levelLimit : Nat := 200

/-- How many lists and objects are open at once at most, where `levels` of them are open already.
Brackets inside of text literals do not count; `quoted` says whether such a literal is open. -/
def deepest : (levels : Nat) → (quoted : Bool) → List Char → Nat
  | levels, _, [] => levels
  | levels, true, '\\' :: _ :: rest => deepest levels true rest
  | levels, true, '"' :: rest => deepest levels false rest
  | levels, true, _ :: rest => deepest levels true rest
  | levels, false, '"' :: rest => deepest levels true rest
  | levels, false, '[' :: rest => deepest (levels + 1) false rest
  | levels, false, '\x7b' :: rest => deepest (levels + 1) false rest
  | levels, false, ']' :: rest => max levels (deepest (levels - 1) false rest)
  | levels, false, '\x7d' :: rest => max levels (deepest (levels - 1) false rest)
  | levels, false, _ :: rest => deepest levels false rest

/-- The text nests no deeper than there is room for. -/
def IsShallow (text : List Char) : Prop :=
  deepest 0 false text ≤ levelLimit

instance (text : List Char) : Decidable (IsShallow text) :=
  inferInstanceAs (Decidable (_ ≤ _))

mutual

/-- How many lists and objects stand inside each other in a value. -/
def nesting : Json → Nat
  | arr items => itemsNesting items + 1
  | obj fields => fieldsNesting fields + 1
  | _ => 0
termination_by structural value => value

/-- The levels of the deepest item. -/
def itemsNesting : List Json → Nat
  | [] => 0
  | item :: items => max item.nesting (itemsNesting items)
termination_by structural items => items

/-- The levels of the deepest value of a field. -/
def fieldsNesting : List (String × Json) → Nat
  | [] => 0
  | (_, value) :: fields => max value.nesting (fieldsNesting fields)
termination_by structural fields => fields

end

theorem le_deepest (levels : Nat) (quoted : Bool) (text : List Char) :
    levels ≤ deepest levels quoted text := by
  fun_induction deepest <;> omega

/-- The characters that begin or end a list, an object or a text literal. -/
def isMark (character : Char) : Bool :=
  character == '"' || character == '[' || character == ']' || character == '\x7b' ||
    character == '\x7d'

theorem deepest_cons {levels : Nat} {character : Char} {rest : List Char}
    (plain : isMark character = false) :
    deepest levels false (character :: rest) = deepest levels false rest := by
  rw [deepest.eq_def]
  split <;> simp_all [isMark]

theorem deepest_append {front : List Char} (plain : ∀ character ∈ front, isMark character = false)
    (levels : Nat) (rest : List Char) :
    deepest levels false (front ++ rest) = deepest levels false rest := by
  induction front with
  | nil => rfl
  | cons first more ih =>
      rw [List.forall_mem_cons] at plain
      rw [List.cons_append, deepest_cons plain.1, ih plain.2]

theorem isMark_of_isSpace {character : Char} (space : isSpace character = true) :
    isMark character = false := by
  simp only [isSpace, Bool.or_eq_true, beq_iff_eq] at space
  rcases space with ((rfl | rfl) | rfl) | rfl <;> rfl

theorem deepest_skipSpace (levels : Nat) (text : List Char) :
    deepest levels false (skipSpace text) = deepest levels false text := by
  conv_rhs => rw [← List.takeWhile_append_dropWhile (p := isSpace) (l := text)]
  exact (deepest_append (fun _ mem => isMark_of_isSpace (List.mem_takeWhile_imp mem)) _ _).symm

/-! ## Scalars -/

theorem deepest_quoted {levels : Nat} {character : Char} {rest : List Char}
    (notQuote : character ≠ '"') (notEscape : character ≠ '\\') :
    deepest levels true (character :: rest) = deepest levels true rest := by
  rw [deepest.eq_def]
  split <;> simp_all

theorem ne_of_hexValue? {character : Char} {value : Nat}
    (found : Text.hexValue? character = some value) : character ≠ '"' ∧ character ≠ '\\' := by
  constructor <;> rintro rfl <;> simp [Text.hexValue?] at found

theorem deepest_of_unitOfHex? {a b c d : Char} {unit levels : Nat} {rest : List Char}
    (found : unitOfHex? a b c d = some unit) :
    deepest levels true (a :: b :: c :: d :: rest) = deepest levels true rest := by
  rw [unitOfHex?] at found
  split at found
  · next first second third fourth =>
    rw [deepest_quoted (ne_of_hexValue? first).1 (ne_of_hexValue? first).2,
      deepest_quoted (ne_of_hexValue? second).1 (ne_of_hexValue? second).2,
      deepest_quoted (ne_of_hexValue? third).1 (ne_of_hexValue? third).2,
      deepest_quoted (ne_of_hexValue? fourth).1 (ne_of_hexValue? fourth).2]
  · cases found

/-- A character that begins no escape, with or without a letter behind it, is no backslash. -/
theorem ne_backslash {character : Char} {rest : List Char}
    (notLast : character = '\\' → rest = [] → False)
    (notEscape : ∀ letter more, character = '\\' → rest = letter :: more → False) :
    character ≠ '\\' := by
  intro same
  cases rest with
  | nil => exact notLast same rfl
  | cons letter more => exact notEscape letter more same rfl

theorem deepest_of_scanUnits {opening text left : List Char} {read units : List Nat}
    (scanned : scanUnits opening read text = .ok (units, left)) (levels : Nat) :
    deepest levels true text = deepest levels false left := by
  fun_induction scanUnits opening read text with
  | case1 => cases scanned
  | case2 read rest =>
      cases scanned
      rw [deepest]
  | case3 => cases scanned
  | case4 read a b c d next rest unit found ih =>
      rw [← ih scanned, deepest, deepest_of_unitOfHex? found]
  | case5 => cases scanned
  | case6 => cases scanned
  | case7 read letter rest _ _ _ _ ih => rw [← ih scanned, deepest]
  | case8 => cases scanned
  | case9 => cases scanned
  | case10 read character rest notQuote notLast _ _ notEscape _ ih =>
      have plain := ne_backslash notLast notEscape
      rw [← ih scanned, deepest_quoted notQuote plain]

/-- The rest is what is left of a text after characters that are no marks. -/
def Leaves (text rest : List Char) : Prop :=
  ∃ front, (∀ character ∈ front, isMark character = false) ∧ text = front ++ rest

theorem Leaves.refl (text : List Char) : Leaves text text :=
  ⟨[], nofun, rfl⟩

theorem Leaves.trans {text middle rest : List Char} (first : Leaves text middle)
    (second : Leaves middle rest) : Leaves text rest := by
  rcases first with ⟨front, plain, rfl⟩
  rcases second with ⟨further, furtherPlain, rfl⟩
  exact ⟨front ++ further, List.forall_mem_append.mpr ⟨plain, furtherPlain⟩,
    (List.append_assoc _ _ _).symm⟩

theorem Leaves.cons {character : Char} {text rest : List Char} (plain : isMark character = false)
    (leaves : Leaves text rest) : Leaves (character :: text) rest := by
  rcases leaves with ⟨front, frontPlain, rfl⟩
  exact ⟨character :: front, List.forall_mem_cons.mpr ⟨plain, frontPlain⟩, rfl⟩

theorem Leaves.deepest_eq {text rest : List Char} (leaves : Leaves text rest) (levels : Nat) :
    deepest levels false text = deepest levels false rest := by
  rcases leaves with ⟨front, plain, rfl⟩
  exact deepest_append plain levels rest

theorem isMark_of_isPlainDigit {character : Char} (digit : isPlainDigit character = true) :
    isMark character = false := by
  rw [← Bool.not_eq_true]
  intro mark
  simp only [isMark, Bool.or_eq_true, beq_iff_eq] at mark
  rcases mark with (((rfl | rfl) | rfl) | rfl) | rfl <;> exact absurd digit (by decide)

theorem leaves_spanDigits (text : List Char) : Leaves text (spanDigits text).2 :=
  ⟨text.takeWhile isPlainDigit,
    fun _ mem => isMark_of_isPlainDigit (List.mem_takeWhile_imp mem),
    List.takeWhile_append_dropWhile.symm⟩

theorem leaves_of_scanWhole? {text digits rest : List Char}
    (scanned : scanWhole? text = some (digits, rest)) : Leaves text rest := by
  rw [scanWhole?.eq_def] at scanned
  split at scanned
  · cases scanned
    exact .cons rfl (.refl _)
  · simp only at scanned
    split_ifs at scanned
    cases scanned
    exact leaves_spanDigits text

theorem leaves_scanDecimals (text : List Char) : Leaves text (scanDecimals text).2 := by
  rw [scanDecimals.eq_def]
  split
  · simp only
    split_ifs
    · exact .refl _
    · exact .cons rfl (leaves_spanDigits _)
  · exact .refl _

theorem leaves_scanExponent (text : List Char) : Leaves text (scanExponent text).2 := by
  rw [scanExponent.eq_def]
  split
  · next mark rest =>
    split
    · next isExponent =>
      have plain : isMark mark = false := by
        rcases isExponent with rfl | rfl <;> rfl
      split
      next negative unsigned cut =>
      have signed : Leaves rest unsigned := by
        split at cut
        · cases cut
          exact .cons rfl (.refl _)
        · cases cut
          exact .cons rfl (.refl _)
        · cases cut
          exact .refl _
      simp only
      split_ifs
      · exact .refl _
      · exact .cons plain (signed.trans (leaves_spanDigits _))
    · exact .refl _
  · exact .refl _

theorem leaves_of_scanNumeral? {text rest : List Char} {numeral : Numeral}
    (scanned : scanNumeral? text = some (numeral, rest)) : Leaves text rest := by
  rw [scanNumeral?.eq_def] at scanned
  split at scanned
  next negative unsigned cut =>
  have signed : Leaves text unsigned := by
    split at cut
    · cases cut
      exact .cons rfl (.refl _)
    · cases cut
      exact .refl _
  split at scanned
  · cases scanned
  · next whole =>
    cases scanned
    exact signed.trans ((leaves_of_scanWhole? whole).trans
      ((leaves_scanDecimals _).trans (leaves_scanExponent _)))

theorem leaves_of_scanNamed? {text rest : List Char} {value : Json}
    (scanned : scanNamed? text = some (value, rest)) : Leaves text rest ∧ value.nesting = 0 := by
  have plain : ∀ entry ∈ namedValues, (∀ character ∈ entry.1, isMark character = false) ∧
      entry.2.nesting = 0 := by
    simp [namedValues, isMark, nesting]
  rcases List.exists_of_findSome?_eq_some scanned with ⟨⟨word, named⟩, mem, taken⟩
  simp only at taken
  split_ifs at taken with begins
  cases taken
  rcases List.isPrefixOf_iff_prefix.mp begins with ⟨rest, rfl⟩
  exact ⟨⟨word, (plain _ mem).1, by simp⟩, (plain _ mem).2⟩

/-- A number or a named value does not nest, and the text before the rest has no marks. -/
theorem leaves_of_scanScalar {text rest : List Char} {value : Json}
    (scanned : scanScalar text = .ok (value, rest)) : Leaves text rest ∧ value.nesting = 0 := by
  rw [scanScalar] at scanned
  split at scanned
  · next found =>
    cases scanned
    exact leaves_of_scanNamed? found
  · split at scanned
    · cases scanned
    · next found =>
      have leaves := leaves_of_scanNumeral? found
      split_ifs at scanned
      · cases scanned
        exact ⟨leaves, rfl⟩
      · cases scanned
        exact ⟨leaves, rfl⟩

/-! ## Values -/

theorem deepest_open (levels : Nat) (rest : List Char) :
    deepest levels false ('[' :: rest) = deepest (levels + 1) false (skipSpace rest) ∧
      deepest levels false ('\x7b' :: rest) = deepest (levels + 1) false (skipSpace rest) := by
  rw [deepest_skipSpace]
  exact ⟨rfl, rfl⟩

theorem deepest_close (levels : Nat) (rest : List Char) :
    deepest (levels + 1) false (']' :: rest) = max (levels + 1) (deepest levels false rest) ∧
      deepest (levels + 1) false ('\x7d' :: rest) =
        max (levels + 1) (deepest levels false rest) :=
  ⟨rfl, rfl⟩

theorem deepest_separator (levels : Nat) (rest : List Char) :
    deepest levels false (',' :: rest) = deepest levels false (skipSpace rest) ∧
      deepest levels false (':' :: rest) = deepest levels false (skipSpace rest) := by
  rw [deepest_skipSpace]
  exact ⟨deepest_cons rfl, deepest_cons rfl⟩

theorem fieldsNesting_set_le (fields : Fields) (name : String) (value : Json) :
    fieldsNesting (fields.set name value) ≤ max (fieldsNesting fields) value.nesting := by
  induction fields with
  | nil => simp [Fields.set, fieldsNesting]
  | cons first rest ih =>
      rcases first with ⟨other, held⟩
      rw [Fields.set, fieldsNesting]
      split
      · rw [fieldsNesting]
        omega
      · rw [fieldsNesting]
        omega

theorem fieldsNesting_ofBindings_le (bindings : List (String × Json)) :
    fieldsNesting (Fields.ofBindings bindings) ≤ fieldsNesting bindings := by
  have added (fields : Fields) : fieldsNesting (bindings.foldl (fun fields binding =>
      Fields.set binding.1 binding.2 fields) fields) ≤
        max (fieldsNesting fields) (fieldsNesting bindings) := by
    induction bindings generalizing fields with
    | nil => exact Nat.le_max_left _ _
    | cons first rest ih =>
        have set := fieldsNesting_set_le fields first.1 first.2
        have later := ih (fields.set first.1 first.2)
        rw [List.foldl_cons, fieldsNesting]
        omega
  have all := added []
  rwa [fieldsNesting, Nat.zero_max] at all

theorem deepest_of_scanText {text rest characters : List Char}
    (scanned : scanText ('"' :: text) text = .ok (characters, rest)) (levels : Nat) :
    deepest levels false ('"' :: text) = deepest levels false rest := by
  rw [scanText] at scanned
  split at scanned <;> cases scanned
  next units => rw [deepest, deepest_of_scanUnits units]

/-- With this bound, whatever is read nests no deeper than its text, and behind it the text goes on
at the same level. Items and bindings are read one level further in. -/
structure KeepsLevels (bound : Nat) : Prop where
  value (levels : Nat) {text rest : List Char} {value : Json}
    (read : parseValue bound text = .ok (value, rest)) :
    levels + value.nesting ≤ deepest levels false text ∧
      deepest levels false rest ≤ deepest levels false text
  items (levels : Nat) {text rest : List Char} {items : List Json}
    (read : parseItems bound text = .ok (items, rest)) :
    levels + 1 + itemsNesting items ≤ deepest (levels + 1) false text ∧
      deepest levels false rest ≤ deepest (levels + 1) false text
  bindings (levels : Nat) {text rest : List Char} {bindings : List (String × Json)}
    (read : parseBindings bound text = .ok (bindings, rest)) :
    levels + 1 + fieldsNesting bindings ≤ deepest (levels + 1) false text ∧
      deepest levels false rest ≤ deepest (levels + 1) false text

namespace KeepsLevels

variable {bound : Nat}

theorem of_valueStep (keeps : KeepsLevels bound) (levels : Nat) {text rest : List Char}
    {value : Json} (step : ValueStep bound rest text value) :
    levels + value.nesting ≤ deepest levels false text ∧
      deepest levels false rest ≤ deepest levels false text := by
  cases step with
  | text scanned =>
      rw [deepest_of_scanText scanned]
      exact ⟨le_deepest _ _ _, le_refl _⟩
  | scalar scanned =>
      rcases leaves_of_scanScalar scanned with ⟨leaves, flat⟩
      rw [leaves.deepest_eq, flat]
      exact ⟨le_deepest _ _ _, le_refl _⟩
  | emptyList closed =>
      rw [(deepest_open levels _).1, closed, (deepest_close levels rest).1, nesting, itemsNesting]
      omega
  | list read =>
      have within := keeps.items levels read
      rw [(deepest_open levels _).1, nesting]
      omega
  | emptyObject closed =>
      rw [(deepest_open levels _).2, closed, (deepest_close levels rest).2, nesting, fieldsNesting]
      omega
  | @object _ bindings read =>
      have within := keeps.bindings levels read
      have dropped := fieldsNesting_ofBindings_le bindings
      rw [(deepest_open levels _).2, nesting]
      omega

theorem of_itemsStep (keeps : KeepsLevels bound) (levels : Nat) {text rest : List Char}
    {items : List Json} (step : ItemsStep bound text rest items) :
    levels + 1 + itemsNesting items ≤ deepest (levels + 1) false text ∧
      deepest levels false rest ≤ deepest (levels + 1) false text := by
  cases step with
  | @last _ after read closed =>
      have first := keeps.value (levels + 1) read
      rw [← deepest_skipSpace _ after, closed, (deepest_close levels rest).1] at first
      rw [itemsNesting, itemsNesting]
      omega
  | @more _ _ after further read comma readMore =>
      have first := keeps.value (levels + 1) read
      have later := keeps.items levels readMore
      rw [← deepest_skipSpace _ after, comma, (deepest_separator _ _).1] at first
      rw [itemsNesting]
      omega

theorem of_bindingsStep (keeps : KeepsLevels bound) (levels : Nat) {text rest : List Char}
    {bindings : List (String × Json)} (step : BindingsStep bound rest text bindings) :
    levels + 1 + fieldsNesting bindings ≤ deepest (levels + 1) false text ∧
      deepest levels false rest ≤ deepest (levels + 1) false text := by
  cases step with
  | @last _ _ afterName _ after _ scanned colon read closed =>
      have first := keeps.value (levels + 1) read
      rw [← deepest_skipSpace _ after, closed, (deepest_close levels rest).2] at first
      rw [deepest_of_scanText scanned, ← deepest_skipSpace _ afterName, colon,
        (deepest_separator _ _).2, fieldsNesting, fieldsNesting]
      omega
  | @more _ _ afterName _ after further _ _ scanned colon read comma readMore =>
      have first := keeps.value (levels + 1) read
      have later := keeps.bindings levels readMore
      rw [← deepest_skipSpace _ after, comma, (deepest_separator _ _).1] at first
      rw [deepest_of_scanText scanned, ← deepest_skipSpace _ afterName, colon,
        (deepest_separator _ _).2, fieldsNesting]
      omega

end KeepsLevels

/-- The induction is on the bound of the reader, which every call hands on to the next ones. -/
theorem keepsLevels (bound : Nat) : KeepsLevels bound := by
  induction bound with
  | zero => exact ⟨nofun, nofun, nofun⟩
  | succ bound ih => exact {
      value := fun levels _ _ _ read => ih.of_valueStep levels (valueStep_of_parseValue read)
      items := fun levels _ _ _ read => ih.of_itemsStep levels (itemsStep_of_parseItems read)
      bindings := fun levels _ _ _ read =>
        ih.of_bindingsStep levels (bindingsStep_of_parseBindings read) }

/-- What is read from a text nests no deeper than the text. -/
theorem nesting_le_of_parse {text : List Char} {value : Json} (read : parse text = .ok value) :
    value.nesting ≤ deepest 0 false text := by
  rcases exists_parseValue_of_parse read with ⟨bound, rest, readValue, _⟩
  have within := ((keepsLevels bound).value 0 readValue).1
  rwa [deepest_skipSpace, Nat.zero_add] at within

example : deepest 0 false "[\x7b\"[\": [\"]\"]\x7d, []]".toList = 3 := by decide +kernel

/-! ## Surrogate pairs -/

/-- The code units that a text denotes if every escape in it counts, whether it stands in a text
literal or not. -/
def escapedUnits : List Char → List Nat
  | '\\' :: 'u' :: a :: b :: c :: d :: rest => (unitOfHex? a b c d).getD 0 :: escapedUnits rest
  | '\\' :: letter :: rest => ((simpleEscape? letter).map Char.toNat).getD 0 :: escapedUnits rest
  | character :: rest => character.toNat :: escapedUnits rest
  | [] => []

/-- Every half of a surrogate pair among the units stands beside its other half. -/
def arePaired : List Nat → Bool
  | [] => true
  | [unit] => !isHighSurrogate unit && !isLowSurrogate unit
  | high :: low :: rest =>
      if isHighSurrogate high && isLowSurrogate low then arePaired rest
      else !isHighSurrogate high && !isLowSurrogate high && arePaired (low :: rest)

/-- No escape in the text denotes half of a surrogate pair that stands alone. -/
def HasWholePairs (text : List Char) : Prop :=
  arePaired (escapedUnits text) = true

instance (text : List Char) : Decidable (HasWholePairs text) :=
  inferInstanceAs (Decidable (_ = _))

theorem escapedUnits_cons {character : Char} (notEscape : character ≠ '\\') (rest : List Char) :
    escapedUnits (character :: rest) = character.toNat :: escapedUnits rest := by
  rw [escapedUnits.eq_def]
  split <;> simp_all

theorem escapedUnits_escape {letter character : Char}
    (known : simpleEscape? letter = some character) (rest : List Char) :
    escapedUnits ('\\' :: letter :: rest) = character.toNat :: escapedUnits rest := by
  have notUnit : letter ≠ 'u' := by
    rintro rfl
    cases known
  rw [escapedUnits.eq_def]
  split
  · next same =>
    cases same
    exact absurd rfl notUnit
  · next same =>
    cases same
    rw [known]
    rfl
  · next noEscape same =>
    cases same
    exact absurd rfl (noEscape letter rest rfl)
  · next same => cases same

/-- What is read after an opening quote are the units up to the closing one. -/
theorem escapedUnits_of_scanUnits {opening text left : List Char} {read units : List Nat}
    (scanned : scanUnits opening read text = .ok (units, left)) :
    ∃ further, units = read.reverse ++ further ∧
      escapedUnits text = further ++ '"'.toNat :: escapedUnits left := by
  fun_induction scanUnits opening read text with
  | case1 => cases scanned
  | case2 read rest =>
      cases scanned
      exact ⟨[], (List.append_nil _).symm, rfl⟩
  | case3 => cases scanned
  | case4 read a b c d next rest unit found ih =>
      rcases ih scanned with ⟨further, rfl, same⟩
      refine ⟨unit :: further, by simp, ?_⟩
      rw [escapedUnits, found, same]
      rfl
  | case5 => cases scanned
  | case6 => cases scanned
  | case7 read letter rest _ _ character known ih =>
      rcases ih scanned with ⟨further, rfl, same⟩
      exact ⟨character.toNat :: further, by simp, by rw [escapedUnits_escape known, same]; rfl⟩
  | case8 => cases scanned
  | case9 => cases scanned
  | case10 read character rest notQuote notLast _ _ notEscape _ ih =>
      have plain := ne_backslash notLast notEscape
      rcases ih scanned with ⟨further, rfl, same⟩
      exact ⟨character.toNat :: further, by simp, by rw [escapedUnits_cons plain, same]; rfl⟩

/-- Pairs do not reach over a unit that is no half of one. -/
theorem arePaired_append {unit : Nat} (notHigh : isHighSurrogate unit = false)
    (notLow : isLowSurrogate unit = false) (before after : List Nat) :
    arePaired (before ++ unit :: after) = (arePaired before && arePaired after) := by
  have alone : arePaired (unit :: after) = arePaired after := by
    cases after <;> simp [arePaired, notHigh, notLow]
  fun_induction arePaired before with
  | case1 => simpa using alone
  | case2 last => simp [arePaired, notLow, alone]
  | case3 high low rest pair ih => simp [arePaired, pair, ih]
  | case4 high low rest other ih =>
      rw [List.cons_append, List.cons_append, arePaired, if_neg other, ← List.cons_append, ih]
      simp only [Bool.and_assoc]

theorem ofNat_eq_replacement {unit : Nat} (replaced : Char.ofNat unit = '\uFFFD') :
    unit = 0xFFFD := by
  by_cases valid : unit.isValidChar
  · have code := congrArg Char.toNat replaced
    rwa [Char.toNat_ofNat, if_pos valid] at code
  · rw [Char.ofNat, dif_neg valid] at replaced
    cases replaced

theorem charOfPair_ne_replacement (high low : Nat) : charOfPair high low ≠ '\uFFFD' := by
  intro replaced
  have code := ofNat_eq_replacement replaced
  omega

/-- Units that are paired have a replacement character among theirs only where it is written. -/
theorem replacement_mem_of_arePaired {units : List Nat} (paired : arePaired units = true)
    (mem : '\uFFFD' ∈ charsOfUnits units) : 0xFFFD ∈ units := by
  fun_induction charsOfUnits units with
  | case1 => cases mem
  | case2 unit =>
      simp only [arePaired, Bool.and_eq_true, Bool.not_eq_true'] at paired
      rw [List.mem_singleton, charOfUnit, paired.1, paired.2] at mem
      exact List.mem_singleton.mpr (ofNat_eq_replacement mem.symm).symm
  | case3 high low rest pair ih =>
      rw [arePaired, if_pos pair] at paired
      rcases List.mem_cons.mp mem with replaced | later
      · exact absurd replaced.symm (charOfPair_ne_replacement high low)
      · exact List.mem_cons_of_mem _ (List.mem_cons_of_mem _ (ih paired later))
  | case4 high low rest other ih =>
      rw [arePaired, if_neg other] at paired
      simp only [Bool.and_eq_true, Bool.not_eq_true'] at paired
      rcases List.mem_cons.mp mem with replaced | later
      · rw [charOfUnit, paired.1.1, paired.1.2] at replaced
        exact List.mem_cons.mpr (.inl (ofNat_eq_replacement replaced.symm).symm)
      · exact List.mem_cons_of_mem _ (ih paired.2 later)

/-- Where no half of a pair stands alone, a text literal has a replacement character only if it is
written, and no half of a pair stands alone in the rest. -/
theorem HasWholePairs.of_scanText {opening text characters rest : List Char}
    (whole : HasWholePairs text) (scanned : scanText opening text = .ok (characters, rest)) :
    ('\uFFFD' ∈ characters → 0xFFFD ∈ escapedUnits text) ∧ HasWholePairs rest := by
  rw [scanText] at scanned
  split at scanned <;> cases scanned
  next units scanned =>
  rcases escapedUnits_of_scanUnits scanned with ⟨further, rfl, same⟩
  rw [HasWholePairs, same, arePaired_append rfl rfl, Bool.and_eq_true] at whole
  refine ⟨fun mem => ?_, whole.2⟩
  rw [same]
  exact List.mem_append_left _ (replacement_mem_of_arePaired whole.1 mem)

example : HasWholePairs "\"\\ud83d\\ude00\"".toList ∧
    ¬HasWholePairs "\"\\ud83d \\ude00\"".toList := by
  decide +kernel

end Rulebook.Json
