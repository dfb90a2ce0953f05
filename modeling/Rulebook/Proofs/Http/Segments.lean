import Mathlib
import Rulebook.Proofs.Http.Addresses
import Rulebook.Proofs.Text.Items

/-!
# Segments below a path

Putting one more segment behind a path leads to another address, whatever the segment holds, with
one exception: a lone dot names the path itself. The reason is that resolving dots goes from left to
right, so what the last segment does depends only on what is left of those before it: a dot leaves
it alone, two dots take the segment before away, and any other segment is put behind it. The paths
that result differ in length.
-/

namespace Rulebook

namespace Text

variable {separator : Char}

theorem join_append_singleton {pieces : List (List Char)} (filled : pieces ≠ [])
    (last : List Char) :
    join [separator] (pieces ++ [last]) = join [separator] pieces ++ separator :: last := by
  induction pieces with
  | nil => exact absurd rfl filled
  | cons piece more ih =>
      cases more with
      | nil => simp [join]
      | cons next more =>
          have later := ih (List.cons_ne_nil next more)
          simp only [join, List.cons_append] at later ⊢
          simp [later]

theorem escapeUnless_ne_nil (isSafe : Char → Bool) (character : Char) :
    escapeUnless isSafe character ≠ [] := by
  rw [escapeUnless]
  split
  · exact List.cons_ne_nil _ _
  · simp only [utf8Char]
    split_ifs <;> simp [escapeByte]

end Text

namespace Url

open Text

theorem length_encodePart_append_lt (isSafe : Char → Bool) {front more : List Char}
    (filled : more ≠ []) :
    (encodePart isSafe front).length < (encodePart isSafe (front ++ more)).length := by
  rcases List.exists_cons_of_ne_nil filled with ⟨first, rest, rfl⟩
  have positive := List.length_pos_iff.mpr (escapeUnless_ne_nil isSafe first)
  rw [encodePart, encodePart, List.flatMap_append, List.flatMap_cons, List.length_append,
    List.length_append]
  omega

/-! ## Resolving dots -/

/-- What the last segment does depends only on what is left of those before it. -/
theorem resolveSegments_append_singleton (above front : List (List Char)) (segment : List Char) :
    resolveSegments above (front ++ [segment]) =
      if segment = ['.'] then resolveSegments above front
      else if segment = ['.', '.'] then
        if resolveSegments above front = [[]] then [[]]
        else (resolveSegments above front).dropLast
      else resolveSegments above front ++ [segment] := by
  induction front generalizing above with
  | nil =>
      simp only [List.nil_append, resolveSegments, List.reverse_eq_iff, List.reverse_cons,
        List.reverse_nil]
      split
      · rfl
      split
      · split
        · next root => simp [root]
        · rw [List.dropLast_reverse]
      · rfl
  | cons first rest ih =>
      rw [List.cons_append, resolveSegments, resolveSegments]
      split
      · exact ih above
      split
      · exact ih _
      · exact ih _

theorem resolveSegments_of_plain {above segments : List (List Char)}
    (plain : ∀ segment ∈ segments, segment ≠ ['.'] ∧ segment ≠ ['.', '.']) :
    resolveSegments above segments = above.reverse ++ segments := by
  induction segments generalizing above with
  | nil => simp [resolveSegments]
  | cons first rest ih =>
      rw [List.forall_mem_cons] at plain
      rw [resolveSegments, if_neg plain.1.1, if_neg plain.1.2, ih plain.2]
      simp

theorem resolveDots_eq (path : List Char) :
    resolveDots path = Text.join ['/'] (resolveSegments [] (splitAt '/' path)) := by
  simp only [resolveDots]
  split
  · rfl
  · next plain =>
    simp only [Bool.or_eq_true, List.contains_eq_mem, decide_eq_true_eq, not_or] at plain
    rw [resolveSegments_of_plain, List.reverse_nil, List.nil_append, join_splitAt]
    intro segment mem
    exact ⟨fun dot => plain.1 (dot ▸ mem), fun dots => plain.2 (dots ▸ mem)⟩

/-- The path behind a word and the path behind a further segment are of different lengths, also
after the dots in them are resolved. -/
theorem length_encodePart_resolveDots_ne {front word segment : List Char}
    (slashless : '/' ∉ word) (named : ∃ character ∈ word, character ≠ '.')
    (single : '/' ∉ segment) (notDot : segment ≠ ['.']) :
    (encodePart isPathSafe (resolveDots (front ++ word))).length ≠
      (encodePart isPathSafe (resolveDots (front ++ (word ++ '/' :: segment)))).length := by
  rcases exists_splitAt_append '/' front with ⟨before, last, join⟩
  have cut : ∀ {piece}, '/' ∉ piece → splitAt '/' (front ++ piece) = before ++ [last ++ piece] :=
    fun absent => join _ _ _ (splitAt_of_not_mem absent)
  have filled : last ++ word ≠ [] := by
    rcases named with ⟨character, mem, _⟩
    exact List.append_ne_nil_of_right_ne_nil last (List.ne_nil_of_mem mem)
  have noDots : last ++ word ≠ ['.'] ∧ last ++ word ≠ ['.', '.'] := by
    rcases named with ⟨character, mem, notDot⟩
    have inPiece := List.mem_append_right last mem
    constructor
    · intro same
      rw [same] at inPiece
      simp [notDot] at inPiece
    · intro same
      rw [same] at inPiece
      simp [notDot] at inPiece
  have short : resolveSegments [] (splitAt '/' (front ++ word)) =
      resolveSegments [] before ++ [last ++ word] := by
    rw [cut slashless, resolveSegments_append_singleton, if_neg noDots.1, if_neg noDots.2]
  have long : splitAt '/' (front ++ (word ++ '/' :: segment)) =
      splitAt '/' (front ++ word) ++ [segment] := by
    rw [← List.append_assoc, splitAt_append_cons, splitAt_of_not_mem single]
  rw [resolveDots_eq, resolveDots_eq, long, resolveSegments_append_singleton, if_neg notDot, short]
  have notRoot : resolveSegments [] before ++ [last ++ word] ≠ [[]] := by
    intro same
    rcases List.append_eq_singleton_iff.mp same with ⟨_, empty⟩ | ⟨_, empty⟩
    · exact filled (List.singleton_inj.mp empty)
    · cases empty
  rw [if_neg notRoot]
  split
  · -- two dots take the word away
    rw [List.dropLast_concat]
    by_cases alone : resolveSegments [] before = []
    · have shorter := @length_encodePart_append_lt isPathSafe [] _ filled
      simp only [List.nil_append, alone] at shorter ⊢
      simpa [Text.join] using shorter.ne'
    · rw [join_append_singleton alone]
      exact (length_encodePart_append_lt isPathSafe (List.cons_ne_nil _ _)).ne'
  · rw [join_append_singleton (List.append_ne_nil_of_right_ne_nil _ (List.cons_ne_nil _ _))]
    exact (length_encodePart_append_lt isPathSafe (List.cons_ne_nil _ _)).ne

/-! ## Addresses -/

theorem locate_path_ne {url located : Url} {front word segment : List Char}
    (slashless : '/' ∉ word) (named : ∃ character ∈ word, character ≠ '.')
    (single : '/' ∉ segment) (notDot : segment ≠ ['.'])
    (short : url.locate (front ++ word) none = .ok located) :
    url.locate (front ++ (word ++ '/' :: segment)) none ≠ .ok located := by
  intro long
  have samePath := congrArg Url.path
    ((locate_eq_ok_iff.mp short).2.symm.trans (locate_eq_ok_iff.mp long).2)
  simp only at samePath
  split at samePath
  · exact length_encodePart_resolveDots_ne slashless named single notDot
      (congrArg List.length samePath)
  · rw [← List.append_assoc] at samePath
    exact (length_encodePart_append_lt isPathSafe (List.cons_ne_nil _ _)).ne
      (congrArg List.length samePath)

theorem locate_query_ne {url located : Url} {path query more : List Char} (filled : more ≠ [])
    (short : url.locate path (some query) = .ok located) :
    url.locate path (some (query ++ more)) ≠ .ok located := by
  intro long
  have sameQuery := congrArg Url.query
    ((locate_eq_ok_iff.mp short).2.symm.trans (locate_eq_ok_iff.mp long).2)
  simp only [Option.map_some, Option.some.injEq] at sameQuery
  exact (length_encodePart_append_lt isQuerySafe filled).ne (congrArg List.length sameQuery)

/-- Giving an address another path or query leads to different addresses where this is so once its
host and its port are settled. -/
theorem withParts_ne {base url : Url} {path otherPath : List Char}
    {query otherQuery fragment : Option (List Char)}
    (apart : ∀ settled located : Url, settled.locate path query = .ok located →
      settled.locate otherPath otherQuery ≠ .ok located)
    (given : base.withParts path query fragment = .ok url) :
    base.withParts otherPath otherQuery fragment ≠ .ok url := by
  intro other
  rcases withParts_eq_ok_iff.mp given with ⟨_, _, _, _, host, named, located⟩
  rcases withParts_eq_ok_iff.mp other with ⟨_, _, _, _, otherHost, otherNamed, otherLocated⟩
  cases named.symm.trans otherNamed
  exact apart _ _ located otherLocated

/-- One more segment leads to another address, unless it is a lone dot. -/
theorem withTarget_ne {base url : Url} {word segment : List Char} (slashless : '/' ∉ word)
    (named : ∃ character ∈ word, character ≠ '.') (single : '/' ∉ segment)
    (noQuery : '?' ∉ word ++ '/' :: segment) (notDot : segment ≠ ['.'])
    (short : base.withTarget (base.target ++ word) = .ok url) :
    base.withTarget (base.target ++ (word ++ '/' :: segment)) ≠ .ok url := by
  have noQueryWord : '?' ∉ word := fun mem => noQuery (List.mem_append_left _ mem)
  rw [withTarget_append noQueryWord] at short
  rw [withTarget_append noQuery]
  cases cut : Text.cutAt '?' base.target with
  | mk path query =>
      rw [cut] at short
      cases query with
      | some query =>
          refine withParts_ne ?_ short
          intro settled located
          rw [← List.append_assoc]
          exact locate_query_ne (List.cons_ne_nil _ _)
      | none =>
          refine withParts_ne ?_ short
          intro settled located
          exact locate_path_ne slashless named single notDot

end Url

end Rulebook
