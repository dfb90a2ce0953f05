import Mathlib
import Rulebook.Proofs.Json.Fields
import Rulebook.Proofs.Json.Literals
import Rulebook.Proofs.Json.Reals

/-!
# Reading what was written

A value that can be written is read from its text in every readable layout. A plain value, which
holds no binary number, no integer with too many digits and no name twice in one object, is read
back as it was; any other may be read as another value, in which a name holds what it held last. The
reader takes a bound on its calls; the length of the text is always enough. Since the text of a
value is tidy, typing it into a field and reading the field gives the same.
-/

namespace Rulebook.Json

/-- A value that JSON text tells apart from all others: integers can be converted, there are no
binary numbers, and no object binds a name twice. -/
inductive IsPlain : Json → Prop
  | null : IsPlain .null
  | bool (value : Bool) : IsPlain (.bool value)
  | int {value : Int} (short : IsShort value) : IsPlain (.int value)
  | str (text : String) : IsPlain (.str text)
  | arr {items : List Json} (each : ∀ item ∈ items, IsPlain item) : IsPlain (.arr items)
  | obj {fields : Fields} (distinct : fields.Distinct) (each : ∀ field ∈ fields, IsPlain field.2) :
      IsPlain (.obj fields)

/-- A layout that only adds space to the tokens of JSON and escapes no more than it must. -/
structure Layout.IsReadable (layout : Layout) : Prop where
  /-- Items are separated by a comma and space. -/
  itemGap : ∃ gap, layout.itemGap = ',' :: gap ∧ ∀ character ∈ gap, isSpace character = true
  /-- Names are separated from values by a colon and space. -/
  nameGap : ∃ gap, layout.nameGap = ':' :: gap ∧ ∀ character ∈ gap, isSpace character = true
  /-- Characters outside ASCII stand for themselves. -/
  unescaped : layout.asciiOnly = false

theorem pretty_isReadable : pretty.IsReadable :=
  ⟨⟨[], rfl, by simp⟩, ⟨[' '], rfl, by simp [isSpace]⟩, rfl⟩

/-! ## Space between tokens -/

theorem skipSpace_append {space : List Char} (blank : ∀ character ∈ space, isSpace character = true)
    (text : List Char) : skipSpace (space ++ text) = skipSpace text :=
  List.dropWhile_append_of_pos blank

theorem skipSpace_cons {first : Char} (visible : isSpace first = false) (rest : List Char) :
    skipSpace (first :: rest) = first :: rest := by
  simp [skipSpace, visible]

theorem isSpace_of_mem_lineBreak (layout : Layout) (level : Nat) :
    ∀ character ∈ lineBreak layout level, isSpace character = true := by
  intro character mem
  rw [lineBreak] at mem
  split at mem
  · simp at mem
  · rcases List.mem_cons.mp mem with rfl | space
    · rfl
    · rw [(List.mem_replicate.mp space).2]
      rfl

theorem endsNumber_lineBreak {layout : Layout} {level : Nat} {closing : Char} {rest : List Char}
    (bracket : closing = ']' ∨ closing = '\x7d') :
    EndsNumber (lineBreak layout level ++ closing :: rest) := by
  have ofClosing : EndsNumber (closing :: rest) := by
    rcases bracket with rfl | rfl
    · exact endsNumber_cons (by decide)
    · exact endsNumber_cons (by decide)
  rw [lineBreak]
  split
  · exact ofClosing
  · exact endsNumber_cons (by decide)

/-! ## The ends of a written value -/

/-- A character with which the text of a number can begin. -/
def BeginsNumber (character : Char) : Prop :=
  isPlainDigit character = true ∨ character ∈ ['-', 'N', 'I']

/-- A character with which the text of a value can begin. -/
def BeginsValue (character : Char) : Prop :=
  BeginsNumber character ∨ character ∈ ['n', 't', 'f', '"', '[', '\x7b']

theorem BeginsNumber.notNested {character : Char} (begins : BeginsNumber character) :
    character ≠ '"' ∧ character ≠ '[' ∧ character ≠ '\x7b' := by
  rcases begins with digit | listed
  · refine ⟨?_, ?_, ?_⟩ <;> (rintro rfl; exact absurd digit (by decide))
  · simp only [List.mem_cons, List.not_mem_nil, or_false] at listed
    rcases listed with rfl | rfl | rfl <;> decide

theorem BeginsValue.visible {character : Char} (begins : BeginsValue character) :
    Text.isBlank character = false ∧ isSpace character = false ∧ character ≠ ']' ∧
      character ≠ '\uFEFF' := by
  rcases begins with (digit | listed) | listed
  · have notBlank := Text.isBlank_of_isPlainDigit digit
    refine ⟨notBlank, ?_, ?_, ?_⟩
    · rw [← Bool.not_eq_true]
      intro space
      simp only [isSpace, Bool.or_eq_true, beq_iff_eq] at space
      rcases space with ((rfl | rfl) | rfl) | rfl <;> exact absurd notBlank (by decide)
    · rintro rfl
      exact absurd digit (by decide)
    · rintro rfl
      exact absurd digit (by decide)
  · simp only [List.mem_cons, List.not_mem_nil, or_false] at listed
    rcases listed with rfl | rfl | rfl <;> decide
  · simp only [List.mem_cons, List.not_mem_nil, or_false] at listed
    rcases listed with rfl | rfl | rfl | rfl | rfl | rfl <;> decide

theorem signedDecimal_beginsNumber (value : Int) :
    ∃ first rest, Text.signedDecimal value = first :: rest ∧ BeginsNumber first := by
  rcases signedDecimal_head value with ⟨first, rest, split, digit⟩ | ⟨first, rest, split, _⟩
  · exact ⟨first, rest, split, Or.inl digit⟩
  · exact ⟨'-', _, split, by simp [BeginsNumber]⟩

theorem realText_beginsNumber (number : Binary64) :
    ∃ first rest, realText number = first :: rest ∧ BeginsNumber first := by
  cases number with
  | undefined => exact ⟨'N', _, rfl, by simp [BeginsNumber]⟩
  | infinity negative =>
      cases negative
      · exact ⟨'I', _, rfl, by simp [BeginsNumber]⟩
      · exact ⟨'-', _, rfl, by simp [BeginsNumber]⟩
  | finite negative significand exponent =>
      rcases exists_isNumeral_finiteText negative significand exponent with
        ⟨magnitude, _, _, is, split, _⟩
      rcases is.head with ⟨first, rest, head, digit⟩
      change ∃ first rest, Binary64.finiteText negative significand exponent = _ ∧ _
      rw [split, head]
      cases negative
      · exact ⟨first, rest, rfl, Or.inl digit⟩
      · exact ⟨'-', _, rfl, by simp [BeginsNumber]⟩

theorem write_head (layout : Layout) (value : Json) (level : Nat) :
    ∃ first rest, write layout level value = first :: rest ∧ BeginsValue first := by
  cases value with
  | null => exact ⟨'n', _, rfl, by simp [BeginsValue]⟩
  | bool value =>
      cases value
      · exact ⟨'f', _, rfl, by simp [BeginsValue]⟩
      · exact ⟨'t', _, rfl, by simp [BeginsValue]⟩
  | int value =>
      rcases signedDecimal_beginsNumber value with ⟨first, rest, split, begins⟩
      exact ⟨first, rest, split, Or.inl begins⟩
  | real number =>
      rcases realText_beginsNumber number with ⟨first, rest, split, begins⟩
      exact ⟨first, rest, split, Or.inl begins⟩
  | str text => exact ⟨'"', _, rfl, by simp [BeginsValue]⟩
  | arr items =>
      cases items
      · exact ⟨'[', _, rfl, by simp [BeginsValue]⟩
      · exact ⟨'[', _, rfl, by simp [BeginsValue]⟩
  | obj fields =>
      cases fields
      · exact ⟨'\x7b', _, rfl, by simp [BeginsValue]⟩
      · exact ⟨'\x7b', _, rfl, by simp [BeginsValue]⟩

theorem noBlankLast_concat (rest : List Char) {character : Char}
    (visible : Text.isBlank character = false) : Text.NoBlankLast (rest ++ [character]) := by
  intro other last split
  rcases List.append_inj' split rfl with ⟨_, same⟩
  cases same
  exact visible

theorem realText_last (number : Binary64) : Text.NoBlankLast (realText number) := by
  cases number with
  | undefined => exact noBlankLast_concat ['N', 'a'] (by decide)
  | infinity negative =>
      cases negative
      · exact noBlankLast_concat "Infinit".toList (by decide)
      · exact noBlankLast_concat "-Infinit".toList (by decide)
  | finite negative significand exponent =>
      rcases exists_isNumeral_finiteText negative significand exponent with
        ⟨magnitude, _, _, is, split, _⟩
      rcases is.last with ⟨front, digits, areDigits, last⟩
      change Text.NoBlankLast (Binary64.finiteText negative significand exponent)
      rw [split, last, ← List.append_assoc]
      refine Text.NoBlankLast.append ?_ areDigits.1
      intro rest character isLast
      exact Text.isBlank_of_isPlainDigit (areDigits.2 character (by simp [isLast]))

theorem write_last (layout : Layout) (value : Json) (level : Nat) :
    Text.NoBlankLast (write layout level value) := by
  cases value with
  | null => exact noBlankLast_concat ['n', 'u', 'l'] (by decide)
  | bool value =>
      cases value
      · exact noBlankLast_concat ['f', 'a', 'l', 's'] (by decide)
      · exact noBlankLast_concat ['t', 'r', 'u'] (by decide)
  | int value =>
      have tidy := Text.isTidy_decimal value.natAbs
      rw [write, signedDecimal_eq]
      exact tidy.noBlankLast.append tidy.1
  | real number => exact realText_last number
  | str text => exact noBlankLast_concat _ (by decide)
  | arr items =>
      cases items
      · exact noBlankLast_concat ['['] (by decide)
      · exact noBlankLast_concat _ (by decide)
  | obj fields =>
      cases fields
      · exact noBlankLast_concat ['\x7b'] (by decide)
      · exact noBlankLast_concat _ (by decide)

/-- The text of a value has no blanks around it. -/
theorem isTidy_write (layout : Layout) (value : Json) (level : Nat) :
    Text.IsTidy (write layout level value) := by
  rcases write_head layout value level with ⟨first, rest, split, begins⟩
  refine ⟨by simp [split], Text.trim_eq_self_iff.mpr ⟨?_, write_last layout value level⟩⟩
  intro character tail same
  rw [split] at same
  cases same
  exact begins.visible.1

/-! ## Reading back -/

/-- The second value is read wherever the text of the first one stands, by any bound that the text
does not exceed. -/
def Reads (layout : Layout) (value read : Json) : Prop :=
  ∀ level bound rest, (write layout level value).length ≤ bound → EndsNumber rest →
    parseValue bound (write layout level value ++ rest) = .ok (read, rest)

/-- The text of the first field's value is read as the second field's value, under the same
name. -/
def ReadsField (layout : Layout) (field read : String × Json) : Prop :=
  read.1 = field.1 ∧ Reads layout field.2 read.2

theorem parseValue_scalar {first : Char} {rest : List Char} (bound : Nat)
    (notText : first ≠ '"') (notList : first ≠ '[') (notObject : first ≠ '\x7b') :
    parseValue (bound + 1) (first :: rest) = scanScalar (first :: rest) := by
  rw [parseValue.eq_def]
  split <;> simp_all

/-- The text of a value is not empty, so a bound that it does not exceed allows for a call. -/
theorem exists_eq_succ {layout : Layout} {value : Json} {level bound : Nat}
    (large : (write layout level value).length ≤ bound) : ∃ fewer, bound = fewer + 1 := by
  have filled := List.length_pos_of_ne_nil (isTidy_write layout value level).1
  exact ⟨bound - 1, by omega⟩

theorem skipSpace_write (layout : Layout) (value : Json) (level : Nat) (rest : List Char) :
    skipSpace (write layout level value ++ rest) = write layout level value ++ rest := by
  rcases write_head layout value level with ⟨first, more, split, begins⟩
  rw [split, List.cons_append]
  exact skipSpace_cons begins.visible.2.1 _

theorem skipSpace_lineBreak_write (layout : Layout) (value : Json) (level : Nat)
    (rest : List Char) :
    skipSpace (lineBreak layout level ++ (write layout level value ++ rest)) =
      write layout level value ++ rest := by
  rw [skipSpace_append (isSpace_of_mem_lineBreak layout level), skipSpace_write]

theorem parseValue_literal (bound : Nat) (text rest : List Char) :
    parseValue (bound + 1) (literal false text ++ rest) = .ok (str (String.ofList text), rest) := by
  simp only [literal, List.cons_append, List.append_assoc, List.nil_append, parseValue,
    scanText_literal]

theorem parseValue_emptyList (bound : Nat) (rest : List Char) :
    parseValue (bound + 1) ('[' :: ']' :: rest) = .ok (arr [], rest) := rfl

theorem parseValue_emptyObject (bound : Nat) (rest : List Char) :
    parseValue (bound + 1) ('\x7b' :: '\x7d' :: rest) = .ok (obj [], rest) := rfl

theorem parseValue_list {bound : Nat} {text items rest : List Char} {values : List Json}
    {first : Char} (visible : skipSpace text = first :: items) (notClosing : first ≠ ']')
    (read : parseItems bound (first :: items) = .ok (values, rest)) :
    parseValue (bound + 1) ('[' :: text) = .ok (arr values, rest) := by
  simp only [parseValue, visible]
  split
  · next same => exact absurd (List.cons_eq_cons.mp same).1 notClosing
  · rw [read]

theorem parseValue_object {bound : Nat} {text bindings rest : List Char} {fields : Fields}
    {first : Char} (visible : skipSpace text = first :: bindings) (notClosing : first ≠ '\x7d')
    (read : parseBindings bound (first :: bindings) = .ok (fields, rest)) :
    parseValue (bound + 1) ('\x7b' :: text) = .ok (obj (Fields.ofBindings fields), rest) := by
  simp only [parseValue, visible]
  split
  · next same => exact absurd (List.cons_eq_cons.mp same).1 notClosing
  · rw [read]

theorem parseItems_last {bound : Nat} {text space rest : List Char} {item : Json}
    (read : parseValue bound text = .ok (item, space ++ ']' :: rest))
    (blank : ∀ character ∈ space, isSpace character = true) :
    parseItems (bound + 1) text = .ok ([item], rest) := by
  have closing : skipSpace (']' :: rest) = ']' :: rest := skipSpace_cons (by decide) rest
  simp only [parseItems, read, skipSpace_append blank, closing]

theorem parseItems_more {bound : Nat} {text more rest : List Char} {item : Json}
    {items : List Json} (read : parseValue bound text = .ok (item, ',' :: more))
    (later : parseItems bound (skipSpace more) = .ok (items, rest)) :
    parseItems (bound + 1) text = .ok (item :: items, rest) := by
  have comma : skipSpace (',' :: more) = ',' :: more := skipSpace_cons (by decide) more
  simp only [parseItems, read, comma, later]

theorem parseBindings_last {bound : Nat} {name afterColon space : List Char} (rest : List Char)
    (value : Json)
    (read : parseValue bound (skipSpace afterColon) = .ok (value, space ++ '\x7d' :: rest))
    (blank : ∀ character ∈ space, isSpace character = true) :
    parseBindings (bound + 1) (literal false name ++ ':' :: afterColon) =
      .ok ([(String.ofList name, value)], rest) := by
  have colon : skipSpace (':' :: afterColon) = ':' :: afterColon :=
    skipSpace_cons (by decide) afterColon
  have closing : skipSpace ('\x7d' :: rest) = '\x7d' :: rest := skipSpace_cons (by decide) rest
  simp only [literal, List.cons_append, List.append_assoc, List.nil_append, parseBindings,
    scanText_literal, colon, read, skipSpace_append blank, closing]

theorem parseBindings_more {bound : Nat} {name afterColon more : List Char} (rest : List Char)
    (value : Json) (fields : Fields)
    (read : parseValue bound (skipSpace afterColon) = .ok (value, ',' :: more))
    (later : parseBindings bound (skipSpace more) = .ok (fields, rest)) :
    parseBindings (bound + 1) (literal false name ++ ':' :: afterColon) =
      .ok ((String.ofList name, value) :: fields, rest) := by
  have colon : skipSpace (':' :: afterColon) = ':' :: afterColon :=
    skipSpace_cons (by decide) afterColon
  have comma : skipSpace (',' :: more) = ',' :: more := skipSpace_cons (by decide) more
  simp only [literal, List.cons_append, List.append_assoc, List.nil_append, parseBindings,
    scanText_literal, colon, read, comma, later]

theorem parseItems_write {layout : Layout} (readable : layout.IsReadable) {first : Json}
    {items read : List Json} (reads : List.Forall₂ (Reads layout) (first :: items) read)
    (level outer bound : Nat) (rest : List Char)
    (large : (write layout level first).length + (writeItems layout level items).length < bound) :
    parseItems bound (write layout level first ++
      (writeItems layout level items ++ (lineBreak layout outer ++ ']' :: rest))) =
        .ok (read, rest) := by
  obtain ⟨bound, rfl⟩ : ∃ fewer, bound = fewer + 1 := ⟨bound - 1, by omega⟩
  induction items generalizing first read bound with
  | nil =>
      rcases List.forall₂_cons_left_iff.mp reads with ⟨readFirst, none, readsFirst, readsNone, rfl⟩
      cases readsNone
      exact parseItems_last
        (readsFirst level bound _ (by omega) (endsNumber_lineBreak (Or.inl rfl)))
        (isSpace_of_mem_lineBreak layout outer)
  | cons second more ih =>
      rcases List.forall₂_cons_left_iff.mp reads with
        ⟨readFirst, readLater, readsFirst, readsLater, rfl⟩
      rcases readable.itemGap with ⟨gap, itemGap, blank⟩
      have filled := List.length_pos_of_ne_nil (isTidy_write layout first level).1
      simp only [writeItems, itemGap, List.length_append, List.length_cons] at large
      obtain ⟨bound, rfl⟩ : ∃ fewer, bound = fewer + 1 := ⟨bound - 1, by omega⟩
      have later := ih readsLater bound (by omega)
      simp only [writeItems, itemGap, List.append_assoc, List.cons_append]
      apply parseItems_more
      · exact readsFirst level (bound + 1) _ (by omega) (endsNumber_cons (by decide))
      · rw [skipSpace_append blank, skipSpace_lineBreak_write]
        exact later

theorem parseBindings_write {layout : Layout} (readable : layout.IsReadable)
    {first : String × Json} {fields read : Fields}
    (reads : List.Forall₂ (ReadsField layout) (first :: fields) read) (level outer bound : Nat)
    (rest : List Char)
    (large : (write layout level first.2).length + (writeFields layout level fields).length
      < bound) :
    parseBindings bound (literal false first.1.toList ++ (layout.nameGap ++
      (write layout level first.2 ++ (writeFields layout level fields ++
        (lineBreak layout outer ++ '\x7d' :: rest))))) = .ok (read, rest) := by
  rcases readable.nameGap with ⟨nameSpace, nameGap, nameBlank⟩
  obtain ⟨bound, rfl⟩ : ∃ fewer, bound = fewer + 1 := ⟨bound - 1, by omega⟩
  induction fields generalizing first read bound with
  | nil =>
      rcases List.forall₂_cons_left_iff.mp reads with
        ⟨⟨name, value⟩, none, ⟨rfl, readsFirst⟩, readsNone, rfl⟩
      cases readsNone
      rw [nameGap, List.cons_append]
      rw [parseBindings_last rest value _ (isSpace_of_mem_lineBreak layout outer),
        String.ofList_toList]
      rw [skipSpace_append nameBlank, skipSpace_write]
      exact readsFirst level bound _ (by omega) (endsNumber_lineBreak (Or.inr rfl))
  | cons second more ih =>
      rcases List.forall₂_cons_left_iff.mp reads with
        ⟨⟨name, value⟩, readLater, ⟨rfl, readsFirst⟩, readsLater, rfl⟩
      rcases readable.itemGap with ⟨gap, itemGap, blank⟩
      have filled := List.length_pos_of_ne_nil (isTidy_write layout first.2 level).1
      simp only [writeFields, itemGap, List.length_append, List.length_cons] at large
      obtain ⟨bound, rfl⟩ : ∃ fewer, bound = fewer + 1 := ⟨bound - 1, by omega⟩
      have later := ih readsLater bound (by omega)
      have quote : ∀ text, skipSpace (literal false second.1.toList ++ text) =
          literal false second.1.toList ++ text := fun text => skipSpace_cons (by decide) _
      simp only [writeFields, itemGap, readable.unescaped, List.append_assoc, List.cons_append]
      rw [nameGap, List.cons_append]
      rw [parseBindings_more rest value readLater, String.ofList_toList]
      · rw [skipSpace_append nameBlank, skipSpace_write]
        exact readsFirst level (bound + 1) _ (by omega) (endsNumber_cons (by decide))
      · rw [skipSpace_append blank, skipSpace_append (isSpace_of_mem_lineBreak layout level), quote,
          ← nameGap]
        exact later

section Reads

variable {layout : Layout}

/-- A value whose text begins no text, list or object is read as what is scanned from it. -/
theorem reads_of_scanScalar {value read : Json}
    (head : ∀ level, ∃ first rest, write layout level value = first :: rest ∧
      first ≠ '"' ∧ first ≠ '[' ∧ first ≠ '\x7b')
    (scans : ∀ level rest, EndsNumber rest →
      scanScalar (write layout level value ++ rest) = .ok (read, rest)) :
    Reads layout value read := by
  intro level bound rest large ends
  rcases exists_eq_succ large with ⟨bound, rfl⟩
  rcases head level with ⟨first, more, split, notText, notList, notObject⟩
  have scanned := scans level rest ends
  rw [split, List.cons_append] at scanned ⊢
  rw [parseValue_scalar bound notText notList notObject, scanned]

theorem reads_int {value : Int} (short : IsShort value) : Reads layout (.int value) (.int value) := by
  rcases signedDecimal_beginsNumber value with ⟨first, more, split, begins⟩
  exact reads_of_scanScalar (fun _ => ⟨first, more, split, begins.notNested⟩)
    fun _ _ ends => scanScalar_signedDecimal short ends

theorem exists_reads_real (number : Binary64) : ∃ read, Reads layout (.real number) read := by
  rcases exists_scanScalar_realText number with ⟨read, scanned⟩
  rcases realText_beginsNumber number with ⟨first, more, split, begins⟩
  exact ⟨read, reads_of_scanScalar (fun _ => ⟨first, more, split, begins.notNested⟩)
    fun _ => scanned⟩

theorem reads_null : Reads layout .null .null :=
  reads_of_scanScalar (fun _ => ⟨'n', _, rfl, by decide⟩) fun _ _ _ => rfl

theorem reads_bool (value : Bool) : Reads layout (.bool value) (.bool value) := by
  cases value with
  | false => exact reads_of_scanScalar (fun _ => ⟨'f', _, rfl, by decide⟩) fun _ _ _ => rfl
  | true => exact reads_of_scanScalar (fun _ => ⟨'t', _, rfl, by decide⟩) fun _ _ _ => rfl

theorem reads_str (readable : layout.IsReadable) (text : String) :
    Reads layout (.str text) (.str text) := by
  intro level bound rest large _
  rcases exists_eq_succ large with ⟨bound, rfl⟩
  have written : write layout level (.str text) = literal false text.toList := by
    rw [← readable.unescaped]
    rfl
  rw [written, parseValue_literal, String.ofList_toList]

theorem reads_arr (readable : layout.IsReadable) {items read : List Json}
    (reads : List.Forall₂ (Reads layout) items read) : Reads layout (.arr items) (.arr read) := by
  intro level bound rest large _
  rcases exists_eq_succ large with ⟨bound, rfl⟩
  cases items with
  | nil =>
      cases reads
      exact parseValue_emptyList bound rest
  | cons first more =>
      simp only [write, List.length_append, List.length_cons] at large
      have parsed := parseItems_write readable reads (level + 1) level bound rest (by omega)
      have visible := skipSpace_lineBreak_write layout first (level + 1)
      rcases write_head layout first (level + 1) with ⟨head, tail, split, begins⟩
      simp only [split, List.cons_append] at parsed visible
      simp only [write, split, List.append_assoc, List.cons_append, List.nil_append]
      exact parseValue_list (visible _) begins.visible.2.2.1 parsed

theorem reads_obj (readable : layout.IsReadable) {fields read : Fields}
    (reads : List.Forall₂ (ReadsField layout) fields read) :
    Reads layout (.obj fields) (.obj (Fields.ofBindings read)) := by
  intro level bound rest large _
  rcases exists_eq_succ large with ⟨bound, rfl⟩
  cases fields with
  | nil =>
      cases reads
      exact parseValue_emptyObject bound rest
  | cons first more =>
      simp only [write, List.length_append, List.length_cons] at large
      have parsed := parseBindings_write readable reads (level + 1) level bound rest (by omega)
      have space := isSpace_of_mem_lineBreak layout (level + 1)
      simp only [literal, List.append_assoc, List.cons_append, List.nil_append] at parsed
      simp only [write, literal, readable.unescaped, List.append_assoc, List.cons_append,
        List.nil_append]
      exact parseValue_object (by rw [skipSpace_append space, skipSpace_cons (by decide)])
        (by decide) parsed

theorem IsPlain.reads (readable : layout.IsReadable) {value : Json} (plain : value.IsPlain) :
    Reads layout value value := by
  induction plain with
  | null => exact reads_null
  | bool value => exact reads_bool value
  | int short => exact reads_int short
  | str text => exact reads_str readable text
  | arr each ih => exact reads_arr readable (List.forall₂_same.mpr ih)
  | @obj fields distinct each ih =>
      have read := reads_obj readable (List.forall₂_same.mpr fun field mem => ⟨rfl, ih field mem⟩)
      rwa [Fields.ofBindings_of_distinct distinct] at read

end Reads

/-! ## Values that can be written -/

section Writable

variable {layout : Layout}

mutual

/-- A value that can be written is read as some value. -/
theorem exists_reads (readable : layout.IsReadable) :
    (value : Json) → value.isWritable = true → ∃ read, Reads layout value read
  | .null, _ => ⟨_, reads_null⟩
  | .bool value, _ => ⟨_, reads_bool value⟩
  | .int _, writable => ⟨_, reads_int (of_decide_eq_true writable)⟩
  | .real number, _ => exists_reads_real number
  | .str text, _ => ⟨_, reads_str readable text⟩
  | .arr items, writable =>
      let ⟨_, reads⟩ := exists_forall₂_reads readable items writable
      ⟨_, reads_arr readable reads⟩
  | .obj fields, writable =>
      let ⟨_, reads⟩ := exists_forall₂_readsField readable fields writable
      ⟨_, reads_obj readable reads⟩
termination_by structural value => value

theorem exists_forall₂_reads (readable : layout.IsReadable) :
    (items : List Json) → itemsWritable items = true →
      ∃ read, List.Forall₂ (Reads layout) items read
  | [], _ => ⟨[], .nil⟩
  | item :: items, writable =>
      let both := Bool.and_eq_true_iff.mp writable
      let ⟨_, readsItem⟩ := exists_reads readable item both.1
      let ⟨_, readsItems⟩ := exists_forall₂_reads readable items both.2
      ⟨_, .cons readsItem readsItems⟩
termination_by structural items => items

theorem exists_forall₂_readsField (readable : layout.IsReadable) :
    (fields : List (String × Json)) → fieldsWritable fields = true →
      ∃ read, List.Forall₂ (ReadsField layout) fields read
  | [], _ => ⟨[], .nil⟩
  | (name, value) :: fields, writable =>
      let both := Bool.and_eq_true_iff.mp writable
      let ⟨readValue, readsValue⟩ := exists_reads readable value both.1
      let ⟨_, readsFields⟩ := exists_forall₂_readsField readable fields both.2
      ⟨(name, readValue) :: _, .cons ⟨rfl, readsValue⟩ readsFields⟩
termination_by structural fields => fields

end

end Writable

theorem itemsWritable_iff {items : List Json} :
    itemsWritable items = true ↔ ∀ item ∈ items, item.isWritable = true := by
  induction items with
  | nil => simp [itemsWritable]
  | cons first more ih => simp [itemsWritable, ih]

theorem fieldsWritable_iff {fields : Fields} :
    fieldsWritable fields = true ↔ ∀ field ∈ fields, field.2.isWritable = true := by
  induction fields with
  | nil => simp [fieldsWritable]
  | cons first more ih => simp [fieldsWritable, ih]

theorem IsPlain.isWritable {value : Json} (plain : value.IsPlain) : value.isWritable = true := by
  induction plain with
  | null => rfl
  | bool value => rfl
  | int short => exact decide_eq_true short
  | str text => rfl
  | arr each ih => exact itemsWritable_iff.mpr ih
  | obj distinct each ih => exact fieldsWritable_iff.mpr ih

/-! ## Whole texts -/

theorem Reads.parse_print {layout : Layout} {value read : Json} (reads : Reads layout value read) :
    parse (value.print layout) = .ok read := by
  rcases write_head layout value 0 with ⟨first, rest, split, begins⟩
  have noMark : (value.print layout).head? ≠ some '\uFEFF' := by
    rw [print, split, List.head?_cons]
    intro same
    exact begins.visible.2.2.2 (Option.some.inj same)
  have visible := skipSpace_write layout value 0 []
  have parsed := reads 0 (2 * (write layout 0 value).length + 2) [] (by omega) endsNumber_nil
  rw [List.append_nil] at visible parsed
  rw [parse, if_neg noMark, print, visible, parsed]
  simp [skipSpace]

/-- A text typed with or without blanks around it is read as what stands between them. -/
theorem Reads.parseTyped_of_trim {layout : Layout} {value read : Json}
    (reads : Reads layout value read) {typed : List Char}
    (same : Text.trim typed = value.print layout) : parseTyped typed = .ok read := by
  have filled : (value.print layout).isEmpty = false := by
    simpa [print] using (isTidy_write layout value 0).1
  rw [parseTyped, same, filled, reads.parse_print]
  rfl

theorem Reads.parseTyped_print {layout : Layout} {value read : Json}
    (reads : Reads layout value read) : parseTyped (value.print layout) = .ok read :=
  reads.parseTyped_of_trim (isTidy_write layout value 0).2

/-- Reading undoes writing. -/
theorem parseTyped_print {layout : Layout} (readable : layout.IsReadable) {value : Json}
    (plain : value.IsPlain) : parseTyped (value.print layout) = .ok value :=
  (plain.reads readable).parseTyped_print

end Rulebook.Json
