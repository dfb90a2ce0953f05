import Mathlib
import Rulebook.Expand
import Rulebook.Proofs.Text.Items

/-!
# Reading and writing typed lists

A separator between two texts keeps their items apart: the items of the whole are those of the
first text and then those of the second. The one separator that consists of two characters, a
return and a newline, can be cut in the middle by this, and its return is then the last character of
the first text; but a return is blank, so trimming takes it away with the other blanks around an
item. For the same reason it does not matter that reading looks for newlines alone, and items
written one on a line are read back as they are.
-/

namespace Rulebook

open Text

/-- What separates the items of a typed list. -/
def listSeparators : List (List Char) :=
  [['\n'], ['\r', '\n'], [',']]

/-- The pieces of a text between its separators, from left to right. A return in front of a newline
belongs to the line end; a return alone separates nothing. -/
def cutAtSeparators : List Char → List (List Char)
  | [] => [[]]
  | '\r' :: '\n' :: rest => [] :: cutAtSeparators rest
  | character :: rest =>
      if character = '\n' ∨ character = ',' then [] :: cutAtSeparators rest
      else match cutAtSeparators rest with
        | [] => [[character]]
        | piece :: pieces => (character :: piece) :: pieces

/-- The pieces without the blanks around them, as far as something is left. -/
def filledPieces (pieces : List (List Char)) : List (List Char) :=
  (pieces.map trim).filter (!·.isEmpty)

/-- The items on one line. -/
def lineItems (line : List Char) : List (List Char) :=
  filledPieces (splitAt ',' line)

/-! ## Pieces -/

theorem filledPieces_append (front pieces : List (List Char)) :
    filledPieces (front ++ pieces) = filledPieces front ++ filledPieces pieces := by
  simp [filledPieces]

theorem filledPieces_flatMap (lines : List (List Char)) :
    filledPieces (lines.flatMap (splitAt ',')) = lines.flatMap lineItems := by
  induction lines with
  | nil => rfl
  | cons line lines ih =>
      rw [List.flatMap_cons, filledPieces_append, ih]
      rfl

theorem listItems_eq_flatMap (text : List Char) :
    listItems text = (splitAt '\n' text).flatMap lineItems :=
  filledPieces_flatMap (splitAt '\n' text)

theorem listItems_of_not_mem {text : List Char} (noNewline : '\n' ∉ text) (noComma : ',' ∉ text) :
    listItems text = filledPieces [text] := by
  rw [listItems_eq_flatMap, splitAt_of_not_mem noNewline]
  simp [lineItems, splitAt_of_not_mem noComma]

theorem lineItems_append_comma (front line : List Char) :
    lineItems (front ++ ',' :: line) = lineItems front ++ lineItems line := by
  simp only [lineItems, splitAt_append_cons, filledPieces_append]

/-- A return at the end of a line is one of the blanks around its last item. -/
theorem lineItems_append_return (line : List Char) :
    lineItems (line ++ ['\r']) = lineItems line := by
  rcases exists_splitAt_append ',' line with ⟨before, last, join⟩
  have alone := join [] [] [] rfl
  have ended := join ['\r'] ['\r'] [] (by decide)
  have trimmed : trim (last ++ ['\r']) = trim last :=
    trim_append_of_isBlank last (by simp [isBlank])
  simp only [List.append_nil] at alone
  simp [lineItems, alone, ended, filledPieces, trimmed]

/-! ## Separators between texts -/

theorem listItems_append_newline (front text : List Char) :
    listItems (front ++ '\n' :: text) = listItems front ++ listItems text := by
  simp only [listItems_eq_flatMap, splitAt_append_cons, List.flatMap_append]

theorem listItems_append_return (text : List Char) : listItems (text ++ ['\r']) = listItems text := by
  rcases exists_splitAt_append '\n' text with ⟨before, last, join⟩
  have alone := join [] [] [] rfl
  have ended := join ['\r'] ['\r'] [] (by decide)
  simp only [List.append_nil] at alone
  simp [listItems_eq_flatMap, alone, ended, lineItems_append_return]

/-- The comma joins the last line of a text and the first line of the next to one line. -/
theorem listItems_append_comma (front text : List Char) :
    listItems (front ++ ',' :: text) = listItems front ++ listItems text := by
  rcases exists_splitAt_append '\n' front with ⟨before, last, join⟩
  rcases List.exists_cons_of_ne_nil (@splitAt_ne_nil '\n' text) with
    ⟨head, after, lines⟩
  have alone := join [] [] [] rfl
  have behind := join (',' :: text) (',' :: head) after (by simp [splitAt, lines])
  simp only [List.append_nil] at alone
  simp [listItems_eq_flatMap, alone, behind, lines, lineItems_append_comma]

theorem listItems_append_separator {separator : List Char} (mem : separator ∈ listSeparators)
    (front text : List Char) :
    listItems (front ++ separator ++ text) = listItems front ++ listItems text := by
  simp only [listSeparators, List.mem_cons, List.not_mem_nil, or_false] at mem
  rcases mem with rfl | rfl | rfl
  · simpa using listItems_append_newline front text
  · have cut := listItems_append_newline (front ++ ['\r']) text
    rw [listItems_append_return] at cut
    simpa using cut
  · simpa using listItems_append_comma front text

/-! ## Cutting at all separators at once -/

theorem cutAtSeparators_ne_nil (text : List Char) : cutAtSeparators text ≠ [] := by
  fun_cases cutAtSeparators text <;> simp

theorem modifyHead_nil_append (pieces : List (List Char)) :
    pieces.modifyHead ([] ++ ·) = pieces := by
  cases pieces <;> rfl

/-- What stands in front of a text, without a separator, goes to its first piece. -/
theorem listItems_append_eq {front : List Char} (noNewline : '\n' ∉ front) (noComma : ',' ∉ front)
    (text : List Char) :
    listItems (front ++ text) =
      filledPieces ((cutAtSeparators text).modifyHead (front ++ ·)) := by
  have ended : ∀ {front : List Char}, '\n' ∉ front → ',' ∉ front → ∀ more,
      filledPieces (front :: more) = listItems front ++ filledPieces more := by
    intro front noNewline noComma more
    rw [listItems_of_not_mem noNewline noComma, ← filledPieces_append, List.singleton_append]
  induction text using cutAtSeparators.induct generalizing front with
  | case1 => simp [cutAtSeparators, listItems_of_not_mem noNewline noComma]
  | case2 rest ih =>
      have apart := @listItems_append_separator ['\r', '\n'] (by decide) front rest
      have later := @ih [] (by simp) (by simp)
      rw [modifyHead_nil_append, List.nil_append] at later
      rw [List.append_assoc] at apart
      simpa [cutAtSeparators, ended noNewline noComma, later] using apart
  | case3 character rest notEnd separates ih =>
      have apart := @listItems_append_separator [character]
        (by rcases separates with rfl | rfl <;> decide) front rest
      have later := @ih [] (by simp) (by simp)
      rw [modifyHead_nil_append, List.nil_append] at later
      rw [cutAtSeparators.eq_3 _ _ notEnd, if_pos separates]
      simpa [ended noNewline noComma, later] using apart
  | case4 character rest notEnd plain nothing ih => exact absurd nothing (cutAtSeparators_ne_nil rest)
  | case5 character rest notEnd plain piece pieces cut ih =>
      rw [not_or] at plain
      have further := @ih (front ++ [character])
        (by simp [noNewline, Ne.symm plain.1]) (by simp [noComma, Ne.symm plain.2])
      rw [cutAtSeparators.eq_3 _ _ notEnd, if_neg (not_or.mpr plain), cut]
      simpa [cut] using further

/-- The items are what is left of the pieces between the separators. -/
theorem listItems_eq_filledPieces (text : List Char) :
    listItems text = filledPieces (cutAtSeparators text) := by
  have read := @listItems_append_eq [] (by simp) (by simp) text
  rwa [modifyHead_nil_append, List.nil_append] at read

/-! ## Lists that were written -/

/-- The field of a list shows its items one on a line. -/
theorem fieldText_of_items {param : Param} (shape : param.shape = .lines)
    (items : List (List Char)) :
    param.fieldText (.arr (items.map fun item => .str (String.ofList item))) =
      .str (String.ofList (join ['\n'] items)) := by
  have shown : ((items.map fun item => Json.str (String.ofList item)).filter (· != .null)).map
      Json.display = items := by
    simp [List.filter_map, Function.comp_def, Json.display]
  simp only [Param.fieldText, shape, shown]

theorem listItems_of_items {items : List (List Char)} (each : ∀ item ∈ items, IsItem item) :
    listItems (join ['\n'] items) = items := by
  by_cases filled : items = []
  · subst filled
    decide
  · exact listItems_join filled each

/-- Reading a typed list: the items are what stands between the separators; a separator between two
texts keeps their items apart; every item is tidy and holds neither a comma nor a newline; and a
list of such items is read back from the field that shows it. -/
theorem listItems_separate_and_come_back :
    (∀ text, listItems text = filledPieces (cutAtSeparators text)) ∧
    (∀ separator ∈ listSeparators, ∀ front text,
      listItems (front ++ separator ++ text) = listItems front ++ listItems text) ∧
    (∀ text, ∀ item ∈ listItems text, IsItem item) ∧
    ∀ items : List (List Char), (∀ item ∈ items, IsItem item) →
      ∀ param : Param, param.shape = .lines → ∃ text,
        param.fieldText (.arr (items.map fun item => .str (String.ofList item))) =
          .str (String.ofList text) ∧
        text = join ['\n'] items ∧ listItems text = items := by
  refine ⟨listItems_eq_filledPieces, ?_, fun _ _ => isItem_of_mem_listItems, ?_⟩
  · intro separator mem front text
    exact listItems_append_separator mem front text
  · intro items each param shape
    exact ⟨join ['\n'] items, fieldText_of_items shape items, rfl, listItems_of_items each⟩

/-- Between two addresses a return and a newline come together from two texts, and the addresses are
read back from the field that shows them. -/
theorem twoAddresses_separate_and_come_back :
    let front := " a@x.test,,\r".toList
    let text := "\t\n\rb@x.test\r".toList
    let items := ["a@x.test".toList, "b@x.test".toList]
    let param := Param.optionalLines "emails" "emails_text"
    (['\n'] ∈ listSeparators ∧ listItems (front ++ ['\n'] ++ text) = items ∧
      listItems front ++ listItems text = items ∧ (∀ item ∈ items, IsItem item)) ∧
    param.shape = .lines ∧ ∃ shown,
      param.fieldText (.arr (items.map fun item => .str (String.ofList item))) =
        .str (String.ofList shown) ∧
      shown = join ['\n'] items ∧ listItems shown = items := by
  intro front text items param
  have read : listItems front ++ listItems text = items := by decide +kernel
  have apart := listItems_separate_and_come_back.2.1 ['\n'] (by decide) front text
  have whole : listItems (front ++ ['\n'] ++ text) = items := apart.trans read
  have each : ∀ item ∈ items, IsItem item := by
    rw [← whole]
    exact listItems_separate_and_come_back.2.2.1 _
  exact ⟨⟨by decide, whole, read, each⟩, rfl,
    listItems_separate_and_come_back.2.2.2 items each param rfl⟩

end Rulebook
