import Mathlib
import Rulebook.Json.Display
import Rulebook.Text.Blank

/-!
# Trimming

A text is *tidy* if something is in it and no blank stands at either end. Trimming leaves a tidy
text as it is, and whatever trimming leaves is tidy or empty. Everything that compiling takes from
a draft and everything that expanding writes into one goes through these two facts.
-/

namespace Rulebook.Text

/-- The text does not begin with a blank character. -/
def NoBlankHead (text : List Char) : Prop :=
  ∀ character rest, text = character :: rest → isBlank character = false

/-- The text does not end with a blank character. -/
def NoBlankLast (text : List Char) : Prop :=
  ∀ rest character, text = rest ++ [character] → isBlank character = false

/-- The text is not empty and trimming leaves it as it is. -/
def IsTidy (text : List Char) : Prop :=
  text ≠ [] ∧ trim text = text

theorem trimStart_eq_self_iff {text : List Char} :
    trimStart text = text ↔ NoBlankHead text := by
  cases text with
  | nil => simp [trimStart, NoBlankHead]
  | cons first rest =>
      constructor
      · intro same character tail split
        cases split
        by_contra blank
        have shorter := (List.dropWhile_suffix isBlank (l := rest)).length_le
        simp only [trimStart, List.dropWhile_cons, Bool.not_eq_false] at same blank
        simp only [blank, if_true] at same
        rw [same] at shorter
        simp at shorter
      · intro head
        simp [trimStart, head first rest rfl]

theorem trimEnd_eq_self_iff {text : List Char} :
    trimEnd text = text ↔ NoBlankLast text := by
  have reversed : trimEnd text = text ↔ trimStart text.reverse = text.reverse := by
    rw [trimEnd, trimStart, List.reverse_eq_iff]
  rw [reversed, trimStart_eq_self_iff]
  constructor
  · intro head rest character split
    exact head character rest.reverse (by simp [split])
  · intro last character rest split
    exact last rest.reverse character (by
      rw [← List.reverse_reverse text, split, List.reverse_cons])

theorem noBlankHead_trimStart (text : List Char) : NoBlankHead (trimStart text) := by
  rw [← trimStart_eq_self_iff]
  exact List.dropWhile_idempotent isBlank text

theorem noBlankLast_trimEnd (text : List Char) : NoBlankLast (trimEnd text) := by
  rw [← trimEnd_eq_self_iff]
  exact List.rdropWhile_idempotent isBlank text

/-- What is left at the end of trimming is a beginning of the text, so it begins like the text. -/
theorem NoBlankHead.trimEnd {text : List Char} (head : NoBlankHead text) :
    NoBlankHead (Text.trimEnd text) := by
  intro character rest split
  obtain ⟨dropped, whole⟩ : Text.trimEnd text <+: text :=
    List.rdropWhile_prefix isBlank text
  exact head character (rest ++ dropped) (by rw [← whole, split, List.cons_append])

theorem trim_eq_self_iff {text : List Char} :
    trim text = text ↔ NoBlankHead text ∧ NoBlankLast text := by
  constructor
  · intro same
    rw [← same]
    exact ⟨(noBlankHead_trimStart text).trimEnd, noBlankLast_trimEnd _⟩
  · rintro ⟨head, last⟩
    rw [trim, trimStart_eq_self_iff.mpr head, trimEnd_eq_self_iff.mpr last]

@[simp]
theorem trim_trim (text : List Char) : trim (trim text) = trim text :=
  trim_eq_self_iff.mpr ⟨(noBlankHead_trimStart text).trimEnd, noBlankLast_trimEnd _⟩

@[simp]
theorem trim_nil : trim [] = [] := rfl

theorem trim_sublist (text : List Char) : (trim text).Sublist text :=
  (List.rdropWhile_prefix isBlank _).sublist.trans (List.dropWhile_suffix isBlank).sublist

theorem trimEnd_append {front : List Char} (last : NoBlankLast front) (more : List Char) :
    trimEnd (front ++ more) = front ++ trimEnd more := by
  have kept := trimEnd_eq_self_iff.mpr last
  rw [trimEnd, List.reverse_eq_iff] at kept
  rw [trimEnd, trimEnd, List.reverse_append, List.dropWhile_append]
  split
  · next nothing =>
    rw [kept, List.reverse_reverse, List.isEmpty_iff.mp nothing, List.reverse_nil, List.append_nil]
  · rw [List.reverse_append, List.reverse_reverse]

theorem trim_append_of_isBlank (text : List Char) {after : List Char}
    (blank : ∀ character ∈ after, isBlank character = true) : trim (text ++ after) = trim text := by
  have nothing : trimStart after = [] := List.dropWhile_eq_nil_iff.mpr blank
  rw [trim, trim, trimStart, List.dropWhile_append, ← trimStart, ← trimStart]
  split
  · next empty => rw [nothing, List.isEmpty_iff.mp empty]
  · rw [trimEnd, trimEnd, List.reverse_append, List.dropWhile_append_of_pos]
    simpa using blank

theorem trim_of_isBlank_append {before : List Char} (text : List Char)
    (blank : ∀ character ∈ before, isBlank character = true) : trim (before ++ text) = trim text := by
  rw [trim, trim, trimStart, List.dropWhile_append_of_pos blank, ← trimStart]

/-- Only blanks stand around what trimming leaves. -/
theorem exists_eq_append_trim (text : List Char) : ∃ front back,
    (∀ character ∈ front, isBlank character = true) ∧
      (∀ character ∈ back, isBlank character = true) ∧ text = front ++ trim text ++ back := by
  have start := List.takeWhile_append_dropWhile (p := isBlank) (l := text)
  have ended := List.takeWhile_append_dropWhile (p := isBlank) (l := (trimStart text).reverse)
  refine ⟨text.takeWhile isBlank, ((trimStart text).reverse.takeWhile isBlank).reverse,
    fun _ => List.mem_takeWhile_imp, ?_, ?_⟩
  · intro character mem
    exact List.mem_takeWhile_imp (List.mem_reverse.mp mem)
  · rw [trim, trimEnd, List.append_assoc, ← List.reverse_append, ended, List.reverse_reverse,
      trimStart, start]

theorem isTidy_trim {text : List Char} (filled : trim text ≠ []) : IsTidy (trim text) :=
  ⟨filled, trim_trim text⟩

theorem IsTidy.noBlankHead {text : List Char} (tidy : IsTidy text) : NoBlankHead text :=
  (trim_eq_self_iff.mp tidy.2).1

theorem IsTidy.noBlankLast {text : List Char} (tidy : IsTidy text) : NoBlankLast text :=
  (trim_eq_self_iff.mp tidy.2).2

theorem NoBlankHead.append {left right : List Char} (head : NoBlankHead left)
    (filled : left ≠ []) : NoBlankHead (left ++ right) := by
  intro character rest split
  cases left with
  | nil => exact absurd rfl filled
  | cons first more =>
      rcases List.cons_eq_cons.mp split with ⟨rfl, _⟩
      exact head first more rfl

theorem NoBlankLast.append {left right : List Char} (last : NoBlankLast right)
    (filled : right ≠ []) : NoBlankLast (left ++ right) := by
  intro rest character split
  rcases (List.eq_nil_or_concat' right).resolve_left filled with ⟨more, final, rfl⟩
  rw [← List.append_assoc] at split
  rcases List.append_inj' split rfl with ⟨_, same⟩
  cases same
  exact last more character rfl

end Rulebook.Text

namespace Rulebook.Json

/-- The value is a text that is not empty and has no blanks around it. -/
def IsTidyText (value : Json) : Prop :=
  ∃ text : String, value = .str text ∧ Text.IsTidy text.toList

theorem isTidyText_ofList {text : List Char} (tidy : Text.IsTidy text) :
    IsTidyText (.str (String.ofList text)) :=
  ⟨String.ofList text, rfl, by simpa using tidy⟩

theorem isTidyText_str {text : String} (tidy : IsTidyText (.str text)) :
    Text.IsTidy text.toList := by
  rcases tidy with ⟨other, same, tidyOther⟩
  cases same
  exact tidyOther

theorem filledText_str (text : String) : filledText (.str text) = text.toList := by
  by_cases empty : text.isEmpty
  · simp_all [filledText, isTruthy, String.isEmpty_iff]
  · simp [filledText, isTruthy, empty, display]

theorem trimmedText_str (text : String) : trimmedText (.str text) = Text.trim text.toList := by
  rw [trimmedText, filledText_str]

end Rulebook.Json
