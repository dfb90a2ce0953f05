import Mathlib
import Rulebook.Compile
import Rulebook.Proofs.Text.Trimming

/-!
# Typed lists

The items of a typed list are tidy texts without commas and line ends, and every such list of
items is what is read back from the items written one on a line. Cutting a text at a character is
the library's `List.splitOn`; what is needed here about the pieces is that none of them holds the
separator and that they hold nothing that the text does not hold.
-/

namespace Rulebook.Text

theorem splitAt_eq_splitOn (separator : Char) (text : List Char) :
    splitAt separator text = text.splitOn separator := by
  induction text with
  | nil => rfl
  | cons first rest ih =>
      rw [List.splitOn_eq_splitOnP] at ih ⊢
      rw [List.splitOnP_cons_eq_if_modifyHead, splitAt, ih]
      by_cases same : first = separator
      · simp [same]
      · have notNil := List.splitOnP_ne_nil (· == separator) rest
        simp only [same, if_false, beq_iff_eq]
        cases pieces : List.splitOnP (· == separator) rest with
        | nil => exact absurd pieces notNil
        | cons piece more => rfl

theorem join_eq_intercalate (separator : List Char) (pieces : List (List Char)) :
    join separator pieces = separator.intercalate pieces := rfl

theorem splitAt_ne_nil {separator : Char} (text : List Char) : splitAt separator text ≠ [] := by
  rw [splitAt_eq_splitOn, List.splitOn_eq_splitOnP]
  exact List.splitOnP_ne_nil _ _

theorem join_splitAt {separator : Char} (text : List Char) :
    join [separator] (splitAt separator text) = text := by
  rw [splitAt_eq_splitOn, join_eq_intercalate]
  exact List.intercalate_splitOn separator

theorem splitAt_join {separator : Char} {pieces : List (List Char)} (filled : pieces ≠ [])
    (absent : ∀ piece ∈ pieces, separator ∉ piece) :
    splitAt separator (join [separator] pieces) = pieces := by
  rw [splitAt_eq_splitOn, join_eq_intercalate]
  exact List.splitOn_intercalate separator absent filled

theorem mem_of_mem_join {separator character : Char} {pieces : List (List Char)}
    (mem : character ∈ join [separator] pieces) :
    character = separator ∨ ∃ piece ∈ pieces, character ∈ piece := by
  induction pieces with
  | nil => cases mem
  | cons piece more ih =>
      cases more with
      | nil => exact Or.inr ⟨piece, by simp, by simpa [join] using mem⟩
      | cons next more =>
          have later : join [separator] (piece :: next :: more) =
              piece ++ separator :: join [separator] (next :: more) := by
            simp [join]
          rw [later, List.mem_append, List.mem_cons] at mem
          rcases mem with here | same | behind
          · exact Or.inr ⟨piece, by simp, here⟩
          · exact Or.inl same
          · rcases ih behind with same | ⟨other, inMore, held⟩
            · exact Or.inl same
            · exact Or.inr ⟨other, List.mem_cons_of_mem _ inMore, held⟩

theorem splitAt_of_not_mem {separator : Char} {text : List Char} (absent : separator ∉ text) :
    splitAt separator text = [text] := by
  rw [splitAt_eq_splitOn, List.splitOn_eq_splitOnP]
  apply List.splitOnP_eq_singleton
  intro character mem
  simp only [beq_eq_false_iff_ne]
  rintro rfl
  exact absent mem

/-- The last piece of a text and the first piece of what stands behind it become one piece. -/
theorem exists_splitAt_append (separator : Char) (front : List Char) :
    ∃ before last, ∀ text head after, splitAt separator text = head :: after →
      splitAt separator (front ++ text) = before ++ (last ++ head) :: after := by
  induction front with
  | nil =>
      refine ⟨[], [], ?_⟩
      intro text head after cut
      simpa using cut
  | cons first rest ih =>
      rcases ih with ⟨before, last, join⟩
      by_cases same : first = separator
      · refine ⟨[] :: before, last, ?_⟩
        intro text head after cut
        simp [splitAt, same, join text head after cut]
      · cases before with
        | nil =>
            refine ⟨[], first :: last, ?_⟩
            intro text head after cut
            simp [splitAt, same, join text head after cut]
        | cons piece before =>
            refine ⟨(first :: piece) :: before, last, ?_⟩
            intro text head after cut
            simp [splitAt, same, join text head after cut]

theorem splitAt_append_cons {separator : Char} (front text : List Char) :
    splitAt separator (front ++ separator :: text) =
      splitAt separator front ++ splitAt separator text := by
  rcases exists_splitAt_append separator front with ⟨before, last, join⟩
  have alone := join [] [] [] rfl
  have behind := join (separator :: text) [] (splitAt separator text) (by simp [splitAt])
  simp only [List.append_nil] at alone behind
  simp [alone, behind]

/-- A piece does not hold the separator, and what it holds is in the text. -/
theorem of_mem_splitAt {separator : Char} {text piece : List Char}
    (mem : piece ∈ splitAt separator text) :
    separator ∉ piece ∧ ∀ character ∈ piece, character ∈ text := by
  induction text generalizing piece with
  | nil =>
      simp only [splitAt, List.mem_singleton] at mem
      simp [mem]
  | cons first rest ih =>
      have weaken : ∀ other, other ∈ splitAt separator rest →
          separator ∉ other ∧ ∀ character ∈ other, character ∈ first :: rest := by
        intro other otherMem
        exact ⟨(ih otherMem).1, fun character charMem =>
          List.mem_cons_of_mem first ((ih otherMem).2 character charMem)⟩
      rw [splitAt] at mem
      split at mem
      · rcases List.mem_cons.mp mem with rfl | later
        · simp
        · exact weaken piece later
      · next different =>
        split at mem
        · simp only [List.mem_singleton] at mem
          subst mem
          simp [Ne.symm different]
        · next head pieces split =>
          rcases List.mem_cons.mp mem with rfl | later
          · rcases weaken head (by simp [split]) with ⟨absent, held⟩
            refine ⟨?_, ?_⟩
            · simp [Ne.symm different, absent]
            · intro character charMem
              rcases List.mem_cons.mp charMem with rfl | inHead
              · exact List.mem_cons_self
              · exact held character inHead
          · exact weaken piece (by simp [split, later])

/-- The text is tidy and stands on one line without commas, so that it can be one item of a typed
list. -/
def IsItem (text : List Char) : Prop :=
  IsTidy text ∧ ',' ∉ text ∧ '\n' ∉ text

theorem isItem_of_mem_listItems {text item : List Char} (mem : item ∈ listItems text) :
    IsItem item := by
  simp only [listItems, List.mem_filter, List.mem_map, List.mem_flatMap] at mem
  rcases mem with ⟨⟨piece, ⟨line, lineMem, pieceMem⟩, rfl⟩, filled⟩
  have held : ∀ character ∈ trim piece, character ∈ piece := fun character charMem =>
    (trim_sublist piece).subset charMem
  refine ⟨isTidy_trim (by simpa using filled), ?_, ?_⟩
  · intro comma
    exact (of_mem_splitAt pieceMem).1 (held _ comma)
  · intro newline
    exact (of_mem_splitAt lineMem).1 ((of_mem_splitAt pieceMem).2 _ (held _ newline))

/-- Items written one on a line are read back as they are. -/
theorem listItems_join {items : List (List Char)} (filled : items ≠ [])
    (each : ∀ item ∈ items, IsItem item) : listItems (join ['\n'] items) = items := by
  have lines : splitAt '\n' (join ['\n'] items) = items := by
    rw [splitAt_eq_splitOn, join_eq_intercalate]
    exact List.splitOn_intercalate '\n' (fun item mem => (each item mem).2.2) filled
  have pieces : items.flatMap (splitAt ',') = items := by
    have alone : items.flatMap (splitAt ',') = items.flatMap fun item => [item] :=
      List.flatMap_congr fun item mem => splitAt_of_not_mem (each item mem).2.1
    rw [alone, List.flatMap_singleton']
  have trimmed : items.map trim = items := by
    conv_rhs => rw [← List.map_id items]
    exact List.map_congr_left fun item mem => (each item mem).1.2
  rw [listItems, lines, pieces, trimmed, List.filter_eq_self]
  intro item mem
  simpa using (each item mem).1.1

/-- A join of items begins with the first and ends with the last of them, so it has no blanks
around it. -/
theorem isTidy_join {items : List (List Char)} (filled : items ≠ [])
    (each : ∀ item ∈ items, IsItem item) : IsTidy (join ['\n'] items) := by
  induction items with
  | nil => exact absurd rfl filled
  | cons first rest ih =>
      have tidyFirst := (each first List.mem_cons_self).1
      cases rest with
      | nil => simpa [join] using tidyFirst
      | cons second more =>
          have tidyRest := ih (by simp) fun item mem => each item (List.mem_cons_of_mem first mem)
          have split : join ['\n'] (first :: second :: more) =
              first ++ '\n' :: join ['\n'] (second :: more) := by
            simp [join]
          rw [split]
          refine ⟨by simp, trim_eq_self_iff.mpr ⟨?_, ?_⟩⟩
          · exact tidyFirst.noBlankHead.append tidyFirst.1
          · rw [List.append_cons]
            exact tidyRest.noBlankLast.append tidyRest.1

end Rulebook.Text
