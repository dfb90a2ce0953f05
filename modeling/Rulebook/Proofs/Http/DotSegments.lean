import Mathlib
import Rulebook.Proofs.Http.Segments
import Rulebook.Proofs.Text.Utf8

/-!
# Resolving dots

When dots are resolved, no segment that is left is a lone dot or two, and a path without such
segments stays as it is. A segment of one or two dots vanishes together with its slash, so the path
is then too short for another segment to have taken its place. Escaping a path goes segment by
segment and makes no dots.
-/

namespace Rulebook

namespace Text

variable {separator : Char}

/-- The segment is no name: in a path it stands for the directory itself or for the one above. -/
def IsDots (segment : List Char) : Prop :=
  segment = ['.'] ∨ segment = ['.', '.']

instance : DecidablePred IsDots :=
  fun _ => inferInstanceAs (Decidable (_ ∨ _))

/-- No segment of the path is a lone dot or two. -/
def IsDotless (path : List Char) : Prop :=
  ∀ segment ∈ splitAt '/' path, ¬IsDots segment

theorem isDots_iff {segment : List Char} :
    ¬IsDots segment ↔ segment ≠ ['.'] ∧ segment ≠ ['.', '.'] :=
  not_or

/-! ## Pieces -/

/-- What stands before the first separator goes to the first piece. -/
theorem splitAt_append_of_not_mem {front : List Char} (absent : separator ∉ front)
    (text : List Char) :
    splitAt separator (front ++ text) =
      (splitAt separator text).modifyHead (front ++ ·) := by
  induction front with
  | nil =>
      rw [List.nil_append]
      cases splitAt separator text <;> rfl
  | cons first rest ih =>
      rw [List.mem_cons, not_or] at absent
      rw [List.cons_append, splitAt, if_neg (Ne.symm absent.1), ih absent.2]
      cases pieces : splitAt separator text with
      | nil => exact absurd pieces (splitAt_ne_nil text)
      | cons piece more => rfl

/-- The room that pieces take, each with a separator. -/
def room (pieces : List (List Char)) : Nat :=
  (pieces.map fun piece => piece.length + 1).sum

theorem room_cons (piece : List Char) (pieces : List (List Char)) :
    room (piece :: pieces) = piece.length + 1 + room pieces := by
  simp [room]

theorem room_reverse (pieces : List (List Char)) : room pieces.reverse = room pieces := by
  simp [room]

theorem length_join {pieces : List (List Char)} (filled : pieces ≠ []) :
    (join [separator] pieces).length + 1 = room pieces := by
  induction pieces with
  | nil => exact absurd rfl filled
  | cons piece more ih =>
      cases more with
      | nil => simp [join, room]
      | cons next more =>
          have later : join [separator] (piece :: next :: more) =
              piece ++ separator :: join [separator] (next :: more) := by
            simp [join]
          have behind := ih (List.cons_ne_nil next more)
          rw [later, room_cons, ← behind, List.length_append, List.length_cons]
          omega

theorem room_splitAt (text : List Char) : room (splitAt separator text) = text.length + 1 := by
  rw [← @length_join separator _ (splitAt_ne_nil text), join_splitAt]

theorem isDotless_append_cons {front text : List Char} :
    IsDotless (front ++ '/' :: text) ↔ IsDotless front ∧ IsDotless text := by
  simp only [IsDotless, splitAt_append_cons, List.forall_mem_append]

theorem isDotless_of_not_mem {segment : List Char} (single : '/' ∉ segment) :
    IsDotless segment ↔ ¬IsDots segment := by
  rw [IsDotless, splitAt_of_not_mem single, List.forall_mem_singleton]

theorem isDotless_nil : IsDotless [] :=
  (isDotless_of_not_mem List.not_mem_nil).mpr (by simp [IsDots])

end Text

namespace Url

open Text

/-! ## Escapes -/

theorem escapeUnless_eq_cons {isSafe : Char → Bool} {character : Char}
    (escaped : ¬isSafe character = true) :
    ∃ more, escapeUnless isSafe character = '%' :: more := by
  rcases exists_utf8Char_eq character with ⟨first, further, bytes⟩
  rw [escapeUnless, if_neg escaped, bytes, List.flatMap_cons]
  exact ⟨_, rfl⟩

theorem encodePart_cons (isSafe : Char → Bool) (first : Char) (rest : List Char) :
    encodePart isSafe (first :: rest) = escapeUnless isSafe first ++ encodePart isSafe rest :=
  List.flatMap_cons

theorem encodePart_of_safe {isSafe : Char → Bool} {part : List Char}
    (safe : ∀ character ∈ part, isSafe character = true) : encodePart isSafe part = part := by
  induction part with
  | nil => rfl
  | cons first rest ih =>
      rw [List.forall_mem_cons] at safe
      rw [encodePart_cons, escapeUnless, if_pos safe.1, ih safe.2, List.singleton_append]

/-- Without a percent sign nothing was escaped. -/
theorem eq_of_encodePart_eq {isSafe : Char → Bool} {part plain : List Char}
    (encoded : encodePart isSafe part = plain) (noEscape : '%' ∉ plain) : part = plain := by
  rw [← encoded, encodePart_of_safe]
  intro character mem
  by_contra escaped
  rcases escapeUnless_eq_cons escaped with ⟨more, percent⟩
  refine noEscape (encoded ▸ List.mem_flatMap.mpr ⟨character, mem, ?_⟩)
  rw [percent]
  exact List.mem_cons_self

theorem isDots_encodePart {isSafe : Char → Bool} {segment : List Char}
    (dots : IsDots (encodePart isSafe segment)) : IsDots segment := by
  rcases dots with dot | twoDots
  · exact Or.inl (eq_of_encodePart_eq dot (by decide))
  · exact Or.inr (eq_of_encodePart_eq twoDots (by decide))

theorem of_mem_escapeUnless {isSafe : Char → Bool} {source character : Char}
    (mem : character ∈ escapeUnless isSafe source) :
    (isSafe source = true ∧ character = source) ∨ character = '%' ∨
      isUnreserved character = true := by
  rw [escapeUnless] at mem
  split at mem
  · next safe => exact Or.inl ⟨safe, List.mem_singleton.mp mem⟩
  · rcases List.mem_flatMap.mp mem with ⟨byte, _, digit⟩
    have small := byte.toNat_lt
    simp only [escapeByte, List.mem_cons, List.not_mem_nil, or_false] at digit
    rcases digit with rfl | rfl | rfl
    · exact Or.inr (Or.inl rfl)
    · exact Or.inr (Or.inr (isUnreserved_escapeDigit _ (by omega)))
    · exact Or.inr (Or.inr (isUnreserved_escapeDigit _ (by omega)))

theorem isPathSafe_of_mem_encodePart {part : List Char} {character : Char}
    (mem : character ∈ encodePart isPathSafe part) : isPathSafe character = true := by
  rcases List.mem_flatMap.mp mem with ⟨source, _, written⟩
  rcases of_mem_escapeUnless written with ⟨safe, rfl⟩ | rfl | unreserved
  · exact safe
  · decide
  · exact isPathSafe_of_isUnreserved unreserved

/-- Segments are escaped one by one. -/
theorem splitAt_encodePart (path : List Char) :
    splitAt '/' (encodePart isPathSafe path) =
      (splitAt '/' path).map (encodePart isPathSafe) := by
  induction path with
  | nil => rfl
  | cons first rest ih =>
      rw [encodePart_cons, splitAt]
      by_cases slash : first = '/'
      · have whole : escapeUnless isPathSafe first = ['/'] := by
          rw [slash]
          rfl
        rw [if_pos slash, whole, List.singleton_append, splitAt, if_pos rfl, ih]
        rfl
      · have absent : '/' ∉ escapeUnless isPathSafe first := by
          intro mem
          rcases of_mem_escapeUnless mem with ⟨_, same⟩ | same | unreserved
          · exact slash same.symm
          · cases same
          · exact absurd unreserved (by decide)
        rw [if_neg slash, splitAt_append_of_not_mem absent, ih]
        cases pieces : splitAt '/' rest with
        | nil => exact absurd pieces (splitAt_ne_nil rest)
        | cons piece more =>
            simp only [List.map_cons, List.modifyHead_cons, encodePart_cons]

theorem isDotless_encodePart {path : List Char} (dotless : IsDotless path) :
    IsDotless (encodePart isPathSafe path) := by
  intro segment mem
  rw [splitAt_encodePart] at mem
  rcases List.mem_map.mp mem with ⟨source, inPath, rfl⟩
  exact fun dots => dotless source inPath (isDots_encodePart dots)

/-! ## Resolving dots -/

theorem mem_resolveSegments {above segments : List (List Char)} {segment : List Char}
    (mem : segment ∈ resolveSegments above segments) :
    segment ∈ above ∨ segment ∈ segments ∧ ¬IsDots segment := by
  induction segments generalizing above with
  | nil => exact Or.inl (List.mem_reverse.mp mem)
  | cons first rest ih =>
      have later : segment ∈ rest ∧ ¬IsDots segment → segment ∈ first :: rest ∧ ¬IsDots segment :=
        And.imp_left (List.mem_cons_of_mem first)
      rw [resolveSegments] at mem
      split at mem
      · exact (ih mem).imp_right later
      split at mem
      · refine (ih mem).imp ?_ later
        intro stays
        split at stays
        · exact stays
        · exact List.mem_of_mem_tail stays
      · next notDot notDots =>
        rcases ih mem with held | behind
        · rcases List.mem_cons.mp held with rfl | inAbove
          · exact Or.inr ⟨List.mem_cons_self, isDots_iff.mpr ⟨notDot, notDots⟩⟩
          · exact Or.inl inAbove
        · exact Or.inr (later behind)

/-- No dots are left. -/
theorem isDotless_resolveDots (path : List Char) : IsDotless (resolveDots path) := by
  rw [resolveDots_eq]
  by_cases none : resolveSegments [] (splitAt '/' path) = []
  · rw [none]
    exact isDotless_nil
  · have single : ∀ segment ∈ resolveSegments [] (splitAt '/' path), '/' ∉ segment := by
      intro segment mem
      rcases mem_resolveSegments mem with nowhere | ⟨inPath, _⟩
      · cases nowhere
      · exact (of_mem_splitAt inPath).1
    intro segment mem
    rw [splitAt_join none single] at mem
    rcases mem_resolveSegments mem with nowhere | ⟨_, named⟩
    · cases nowhere
    · exact named

theorem resolveDots_of_isDotless {path : List Char} (dotless : IsDotless path) :
    resolveDots path = path := by
  rw [resolveDots_eq, resolveSegments_of_plain, List.reverse_nil, List.nil_append, join_splitAt]
  exact fun segment mem => isDots_iff.mp (dotless segment mem)

theorem of_mem_resolveDots {path : List Char} {character : Char}
    (mem : character ∈ resolveDots path) : character = '/' ∨ character ∈ path := by
  rw [resolveDots_eq] at mem
  rcases mem_of_mem_join mem with slash | ⟨segment, inSegments, held⟩
  · exact Or.inl slash
  · rcases mem_resolveSegments inSegments with nowhere | ⟨inPath, _⟩
    · cases nowhere
    · exact Or.inr ((of_mem_splitAt inPath).2 character held)

theorem resolveSegments_append (above front back : List (List Char)) :
    resolveSegments above (front ++ back) =
      resolveSegments (resolveSegments above front).reverse back := by
  induction front generalizing above with
  | nil => simp [resolveSegments]
  | cons first rest ih =>
      rw [List.cons_append, resolveSegments, resolveSegments]
      split
      · exact ih _
      split
      · exact ih _
      · exact ih _

theorem room_above_le (above : List (List Char)) :
    room (if above = [[]] then above else above.tail) ≤ room above := by
  split
  · exact le_rfl
  · cases above with
    | nil => exact le_rfl
    | cons segment more =>
        rw [List.tail_cons, room_cons]
        omega

theorem room_resolveSegments_le (above segments : List (List Char)) :
    room (resolveSegments above segments) ≤ room above + room segments := by
  induction segments generalizing above with
  | nil => rw [resolveSegments, room_reverse]; omega
  | cons first rest ih =>
      rw [resolveSegments, room_cons]
      split
      · have := ih above
        omega
      split
      · have := ih (if above = [[]] then above else above.tail)
        have := room_above_le above
        omega
      · have := ih (first :: above)
        rw [room_cons] at this
        omega

/-- A lone dot and two dots both vanish with their slash, whatever else goes with them. -/
theorem length_resolveDots_le {front segment rest : List Char} (dots : IsDots segment)
    (ends : rest = [] ∨ ∃ more, rest = '/' :: more) :
    (resolveDots (front ++ '/' :: (segment ++ rest))).length ≤ front.length + rest.length := by
  have single : '/' ∉ segment := by
    rcases dots with rfl | rfl <;> decide
  have pieces : ∃ behind, splitAt '/' (segment ++ rest) = segment :: behind ∧
      room behind = rest.length := by
    rcases ends with rfl | ⟨more, rfl⟩
    · exact ⟨[], by rw [List.append_nil, splitAt_of_not_mem single], rfl⟩
    · refine ⟨splitAt '/' more, ?_, room_splitAt more⟩
      rw [splitAt_append_cons, splitAt_of_not_mem single, List.singleton_append]
  rcases pieces with ⟨behind, cut, fills⟩
  have vanishes : ∀ above, ∃ less, room less ≤ room above ∧
      resolveSegments above (segment :: behind) = resolveSegments less behind := by
    intro above
    rcases dots with rfl | rfl
    · exact ⟨above, le_rfl, rfl⟩
    · exact ⟨_, room_above_le above, rfl⟩
  rw [resolveDots_eq, splitAt_append_cons, cut, resolveSegments_append]
  rcases vanishes (resolveSegments [] (splitAt '/' front)).reverse with ⟨less, shorter, stays⟩
  rw [stays]
  have total := (room_resolveSegments_le less behind).trans (Nat.add_le_add_right shorter _)
  rw [room_reverse] at total
  have before := room_resolveSegments_le [] (splitAt '/' front)
  rw [room_splitAt] at before
  by_cases none : resolveSegments less behind = []
  · rw [none]
    exact Nat.zero_le _
  · have length := @length_join '/' _ none
    simp only [room, List.map_nil, List.sum_nil] at before
    simp only [room] at fills total length
    omega

end Url

end Rulebook
