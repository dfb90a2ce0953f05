import Mathlib
import Rulebook.Proofs.Http.DotSegments

/-!
# Settled paths

The path of an address that was read has only characters that need no escape, and no dots are left
in it where dots are resolved. Giving the address another path of this kind leaves the path as it
is written. So what is put below a base address can be read off its path, as long as the base
address has no query and no segment of what is put below is a lone dot or two.
-/

namespace Rulebook

namespace Url

open Text

/-! ## Settled addresses -/

/-- Dots in the path of the address are resolved: it has a scheme or names a host. -/
def resolvesDots (url : Url) : Bool :=
  url.hasAuthority || !url.scheme.isEmpty

/-- The path of the address is written as it stays. -/
structure IsSettled (url : Url) : Prop where
  safe : ∀ character ∈ url.path, isPathSafe character = true
  dotless : url.resolvesDots = true → IsDotless url.path

variable {url located : Url} {path : List Char} {query fragment : Option (List Char)}

theorem path_of_locate (placed : url.locate path query = .ok located) :
    located.path =
      encodePart isPathSafe (if located.resolvesDots then resolveDots path else path) := by
  rcases locate_eq_ok_iff.mp placed with ⟨_, rfl⟩
  rfl

theorem isSettled_of_locate (placed : url.locate path query = .ok located) :
    located.IsSettled := by
  have written := path_of_locate placed
  refine ⟨?_, ?_⟩
  · rw [written]
    exact fun character mem => isPathSafe_of_mem_encodePart mem
  · intro resolves
    rw [written, if_pos resolves]
    exact isDotless_encodePart (isDotless_resolveDots path)

theorem exists_locate_of_withParts (placed : url.withParts path query fragment = .ok located) :
    ∃ settled : Url, settled.locate path query = .ok located := by
  rcases withParts_eq_ok_iff.mp placed with ⟨_, _, _, _, host, _, placed⟩
  exact ⟨_, placed⟩

theorem isSettled_of_withParts (placed : url.withParts path query fragment = .ok located) :
    located.IsSettled := by
  rcases exists_locate_of_withParts placed with ⟨settled, placed⟩
  exact isSettled_of_locate placed

theorem isSettled_of_parse {text : List Char} (read : Url.parse text = .ok url) :
    url.IsSettled := by
  simp only [Url.parse] at read
  split at read
  · cases read
  split at read
  · cases read
  split at read
  · cases read
  · exact isSettled_of_locate read

theorem isSettled_of_asBase (settled : url.IsSettled) (extended : url.asBase = .ok located) :
    located.IsSettled := by
  rw [asBase] at extended
  split at extended
  · cases extended
    exact settled
  · exact isSettled_of_withParts extended

/-- An address without scheme and host stays one. -/
theorem resolvesDots_of_withParts (placed : url.withParts path query fragment = .ok located)
    (resolves : located.resolvesDots = true) : url.resolvesDots = true := by
  rcases withParts_eq_ok_iff.mp placed with ⟨_, _, _, _, host, named, settled⟩
  rcases locate_eq_ok_iff.mp settled with ⟨_, rfl⟩
  by_contra bare
  simp only [resolvesDots, hasAuthority, Bool.or_eq_true, Bool.not_eq_true', not_or,
    Bool.not_eq_false, List.isEmpty_iff, Option.isSome_iff_ne_none, ne_eq,
    not_not] at bare
  rcases bare with ⟨⟨⟨noUser, noHost⟩, noPort⟩, noScheme⟩
  have stillNoHost : host = [] := by
    rw [noHost] at named
    exact Except.ok.inj (named.symm.trans (by decide +kernel))
  simp [resolvesDots, hasAuthority, noUser, noPort, noScheme, stillNoHost] at resolves

/-- Whether dots are resolved does not depend on the path. -/
theorem resolvesDots_congr {otherLocated : Url} {otherPath : List Char}
    {otherQuery otherFragment : Option (List Char)}
    (placed : url.withParts path query fragment = .ok located)
    (otherPlaced : url.withParts otherPath otherQuery otherFragment = .ok otherLocated) :
    otherLocated.resolvesDots = located.resolvesDots := by
  rcases withParts_eq_ok_iff.mp placed with ⟨_, _, _, _, host, named, placed⟩
  rcases withParts_eq_ok_iff.mp otherPlaced with ⟨_, _, _, _, otherHost, otherNamed, otherPlaced⟩
  cases named.symm.trans otherNamed
  rcases locate_eq_ok_iff.mp placed with ⟨_, rfl⟩
  rcases locate_eq_ok_iff.mp otherPlaced with ⟨_, rfl⟩
  rfl

/-- A path that has no dots and needs no escape stays as it is written. -/
theorem path_of_withParts (safe : ∀ character ∈ path, isPathSafe character = true)
    (dotless : located.resolvesDots = true → IsDotless path)
    (placed : url.withParts path query fragment = .ok located) : located.path = path := by
  rcases exists_locate_of_withParts placed with ⟨settled, placed⟩
  rw [path_of_locate placed]
  split
  · next resolves => rw [resolveDots_of_isDotless (dotless resolves), encodePart_of_safe safe]
  · rw [encodePart_of_safe safe]

/-- A path with a lone dot or two as a segment becomes shorter by these and their slash. -/
theorem length_path_of_withParts_le {front segment rest : List Char} (dots : IsDots segment)
    (ends : rest = [] ∨ ∃ more, rest = '/' :: more)
    (safe : ∀ character ∈ front ++ '/' :: (segment ++ rest), isPathSafe character = true)
    (resolves : located.resolvesDots = true)
    (placed : url.withParts (front ++ '/' :: (segment ++ rest)) query fragment = .ok located) :
    located.path.length ≤ front.length + rest.length := by
  rcases exists_locate_of_withParts placed with ⟨settled, placed⟩
  rw [path_of_locate placed, if_pos resolves, encodePart_of_safe]
  · exact length_resolveDots_le dots ends
  · intro character mem
    rcases of_mem_resolveDots mem with rfl | inPath
    · decide
    · exact safe character inPath

/-! ## Below a base address -/

/-- The path of a base address without the slash at its end. -/
def above (base : Url) : List Char :=
  if base.path.getLast? = some '/' then base.path.dropLast else base.path

/-- What is put below the address goes behind its path and a slash. -/
structure IsOpen (base : Url) : Prop extends base.IsSettled where
  /-- Without a query the target ends in a slash. -/
  ends : base.query = none → base.target = base.above ++ ['/']

theorem not_mem_of_safe (safe : ∀ character ∈ path, isPathSafe character = true) : '?' ∉ path :=
  fun mem => absurd (safe '?' mem) (by decide)

theorem target_of_query_eq_none (noQuery : url.query = none) :
    url.target = if url.path = [] then ['/'] else url.path := by
  rw [target, noQuery]
  cases url.path <;> simp

theorem target_of_query_eq_some {query : List Char} (held : url.query = some query) :
    url.target = (if url.path.isEmpty then ['/'] else url.path) ++ '?' :: query := by
  rw [target, held]

theorem above_concat {base : Url} {front : List Char} (ends : base.path = front ++ ['/']) :
    base.above = front := by
  simp [above, ends]

theorem IsSettled.cutAt_target (settled : url.IsSettled) :
    Text.cutAt '?' url.target = (if url.path = [] then ['/'] else url.path, url.query) := by
  have noQuery : '?' ∉ if url.path = [] then ['/'] else url.path := by
    split
    · decide
    · exact not_mem_of_safe settled.safe
  have start : (if url.path.isEmpty then ['/'] else url.path) =
      if url.path = [] then ['/'] else url.path := by
    cases url.path <;> rfl
  rw [target, start]
  cases held : url.query with
  | none =>
      rw [List.append_nil]
      exact cutAt_of_not_mem noQuery
  | some query =>
      rw [cutAt_append, cutAt_of_not_mem noQuery]
      simp [cutAt]

theorem isOpen_of_asBase {base : Url} (settled : url.IsSettled) (extended : url.asBase = .ok base) :
    base.IsOpen := by
  refine { isSettled_of_asBase settled extended with ends := ?_ }
  intro noQuery
  rw [asBase] at extended
  split at extended
  · next slash =>
    cases extended
    rw [target_of_query_eq_none noQuery] at slash ⊢
    split at slash
    · next empty => simp [above, empty]
    · next filled =>
      rw [if_neg filled, above, if_pos slash]
      exact (List.dropLast_append_getLast? _ slash).symm
  · next noSlash =>
    rw [withTarget_append (by decide), settled.cutAt_target] at extended
    cases held : url.query with
    | some query =>
        rw [held] at extended
        rcases withParts_eq_ok_iff.mp extended with ⟨_, _, _, _, host, _, placed⟩
        rcases locate_eq_ok_iff.mp placed with ⟨_, rfl⟩
        cases noQuery
    | none =>
        have filled : url.path ≠ [] := by
          intro empty
          simp [target, held, empty] at noSlash
        rw [held, if_neg filled] at extended
        have path : base.path = url.path ++ ['/'] := by
          refine path_of_withParts ?_ ?_ extended
          · exact List.forall_mem_append.mpr
              ⟨settled.safe, List.forall_mem_singleton.mpr (by decide)⟩
          · intro resolves
            rw [isDotless_append_cons]
            exact ⟨settled.dotless (resolvesDots_of_withParts extended resolves), isDotless_nil⟩
        have filledBase : base.path ≠ [] := by
          rw [path]
          exact List.concat_ne_nil _ _
        rw [target_of_query_eq_none noQuery, above_concat path, if_neg filledBase, path]

theorem encodePart_append (isSafe : Char → Bool) (front part : List Char) :
    encodePart isSafe (front ++ part) = encodePart isSafe front ++ encodePart isSafe part :=
  List.flatMap_append

theorem isQuerySafe_of_isPathSafe {character : Char} (safe : isPathSafe character = true) :
    isQuerySafe character = true := by
  simp only [isPathSafe, isQuerySafe, isPrintableExcept, Bool.and_eq_true, Bool.not_eq_true',
    List.contains_eq_mem, decide_eq_false_iff_not, List.mem_cons, not_or] at safe ⊢
  tauto

theorem query_of_withParts (placed : url.withParts path query fragment = .ok located) :
    located.query = query.map (encodePart isQuerySafe) := by
  rcases withParts_eq_ok_iff.mp placed with ⟨_, _, _, _, _, _, placed⟩
  rcases locate_eq_ok_iff.mp placed with ⟨_, rfl⟩
  rfl

/-- With and without a query, the target of a base address ends in a slash. -/
theorem exists_target_eq_of_asBase {base : Url} (settled : url.IsSettled)
    (extended : url.asBase = .ok base) : ∃ front, base.target = front ++ ['/'] := by
  cases held : base.query with
  | none => exact ⟨base.above, (isOpen_of_asBase settled extended).ends held⟩
  | some query =>
      rw [asBase] at extended
      split at extended
      · next slash =>
        cases extended
        exact ⟨_, (List.dropLast_append_getLast? _ slash).symm⟩
      · rw [withTarget_append (by decide), settled.cutAt_target] at extended
        cases urlQuery : url.query with
        | none =>
            rw [urlQuery] at extended
            have noQuery := query_of_withParts extended
            rw [held] at noQuery
            cases noQuery
        | some before =>
            rw [urlQuery] at extended
            have ends := query_of_withParts extended
            rw [Option.map_some, encodePart_append] at ends
            exact ⟨_, (target_of_query_eq_some ends).trans (List.append_assoc _ (_ :: _) _).symm⟩

theorem path_eq_above (base : Url) : base.path = base.above ∨ base.path = base.above ++ ['/'] := by
  rw [above]
  split
  · next slash => exact Or.inr (List.dropLast_append_getLast? _ slash).symm
  · exact Or.inl rfl

theorem IsSettled.safe_above {base : Url} (settled : base.IsSettled) :
    ∀ character ∈ base.above, isPathSafe character = true := by
  intro character mem
  rcases base.path_eq_above with same | longer
  · exact settled.safe character (same ▸ mem)
  · exact settled.safe character (longer ▸ List.mem_append_left _ mem)

theorem IsSettled.isDotless_above {base : Url} (settled : base.IsSettled)
    (resolves : base.resolvesDots = true) : IsDotless base.above := by
  have dotless := settled.dotless resolves
  rcases base.path_eq_above with same | longer
  · rwa [same] at dotless
  · rw [longer, isDotless_append_cons] at dotless
    exact dotless.1

namespace IsOpen

variable {base : Url} {suffix : List Char}

theorem safe_below (opened : base.IsOpen)
    (safe : ∀ character ∈ suffix, isPathSafe character = true) :
    ∀ character ∈ base.above ++ '/' :: suffix, isPathSafe character = true := by
  rw [List.forall_mem_append, List.forall_mem_cons]
  exact ⟨opened.safe_above, by decide, safe⟩

theorem withTarget_eq (opened : base.IsOpen) (noQuery : base.query = none)
    (safe : ∀ character ∈ suffix, isPathSafe character = true) :
    base.withTarget (base.target ++ suffix) =
      base.withPath (base.above ++ '/' :: suffix) none := by
  have start := opened.ends noQuery
  rw [target_of_query_eq_none noQuery] at start
  rw [withTarget_append (not_mem_of_safe safe), opened.cutAt_target, noQuery, start]
  simp only [List.append_assoc, List.singleton_append]

/-- What is put below a base address stands behind its path. -/
theorem path_below (opened : base.IsOpen) (noQuery : base.query = none)
    (safe : ∀ character ∈ suffix, isPathSafe character = true)
    (dotless : url.resolvesDots = true → IsDotless suffix)
    (placed : base.withTarget (base.target ++ suffix) = .ok url) :
    url.path = base.above ++ '/' :: suffix := by
  rw [opened.withTarget_eq noQuery safe] at placed
  refine path_of_withParts (opened.safe_below safe) ?_ placed
  intro resolves
  rw [isDotless_append_cons]
  exact ⟨opened.isDotless_above (resolvesDots_of_withParts placed resolves), dotless resolves⟩

/-- What is put below a base address is the end of the target, even if the base address has a
query. -/
theorem exists_target_below (opened : base.IsOpen) (ends : ∃ front, base.target = front ++ ['/'])
    (safe : ∀ character ∈ suffix, isPathSafe character = true)
    (dotless : url.resolvesDots = true → IsDotless suffix)
    (placed : base.withTarget (base.target ++ suffix) = .ok url) :
    ∃ front, url.target = front ++ '/' :: suffix := by
  cases held : base.query with
  | none =>
      have path := opened.path_below held safe dotless placed
      rw [opened.withTarget_eq held safe] at placed
      have noQuery : url.query = none := query_of_withParts placed
      refine ⟨base.above, ?_⟩
      rw [target_of_query_eq_none noQuery, path, if_neg (by simp)]
  | some query =>
      rcases ends with ⟨front, target⟩
      rw [target_of_query_eq_some held] at target
      have slash : ∃ before, query = before ++ ['/'] := by
        rcases List.eq_nil_or_concat' query with rfl | ⟨before, last, rfl⟩
        · exact absurd (List.append_inj_right' target rfl) (by decide)
        · rw [← List.cons_append, ← List.append_assoc] at target
          exact ⟨before, by rw [List.append_inj_right' target rfl]⟩
      rcases slash with ⟨before, rfl⟩
      rw [withTarget_append (not_mem_of_safe safe), opened.cutAt_target, held] at placed
      have given := query_of_withParts placed
      have plain : ∀ character ∈ '/' :: suffix, isQuerySafe character = true :=
        List.forall_mem_cons.mpr
          ⟨by decide, fun character mem => isQuerySafe_of_isPathSafe (safe character mem)⟩
      rw [Option.map_some, List.append_assoc, List.singleton_append, encodePart_append,
        encodePart_of_safe plain] at given
      exact ⟨_, (target_of_query_eq_some given).trans (List.append_assoc _ (_ :: _) _).symm⟩

/-- A lone dot or two make the path shorter than the parts around them. -/
theorem length_path_below_le {front segment rest : List Char} (opened : base.IsOpen)
    (noQuery : base.query = none) (dots : IsDots segment)
    (ends : rest = [] ∨ ∃ more, rest = '/' :: more)
    (safe : ∀ character ∈ front ++ '/' :: (segment ++ rest), isPathSafe character = true)
    (resolves : url.resolvesDots = true)
    (placed : base.withTarget (base.target ++ (front ++ '/' :: (segment ++ rest))) = .ok url) :
    url.path.length ≤ base.above.length + 1 + front.length + rest.length := by
  have behind : base.above ++ '/' :: (front ++ '/' :: (segment ++ rest)) =
      (base.above ++ '/' :: front) ++ '/' :: (segment ++ rest) := by
    simp
  rw [opened.withTarget_eq noQuery safe, behind] at placed
  have shorter := length_path_of_withParts_le dots ends (behind ▸ opened.safe_below safe) resolves
    placed
  rw [List.length_append, List.length_cons] at shorter
  omega

/-- Below a base address with a query nothing is put behind the path. -/
theorem length_path_of_query (opened : base.IsOpen) {query : List Char}
    (held : base.query = some query)
    (safe : ∀ character ∈ suffix, isPathSafe character = true)
    (placed : base.withTarget (base.target ++ suffix) = .ok url) :
    url.path.length ≤ base.above.length + 1 := by
  rw [withTarget_append (not_mem_of_safe safe), opened.cutAt_target, held] at placed
  have path : url.path = if base.path = [] then ['/'] else base.path := by
    refine path_of_withParts ?_ ?_ placed
    · split
      · exact List.forall_mem_singleton.mpr (by decide)
      · exact opened.safe
    · intro resolves
      split
      · exact (@isDotless_append_cons [] []).mpr ⟨isDotless_nil, isDotless_nil⟩
      · exact opened.dotless (resolvesDots_of_withParts placed resolves)
  rw [path]
  split
  · simp
  · rcases base.path_eq_above with same | longer
    · rw [same]
      exact Nat.le_succ _
    · rw [longer, List.length_append, List.length_singleton]

end IsOpen

/-- Parameters change nothing about the path. -/
theorem path_of_withParams (settled : url.IsSettled) {params : Option Json.Fields}
    (given : url.withParams params = .ok located) :
    located.path = url.path ∧ (located.resolvesDots = true → url.resolvesDots = true) := by
  have kept : ∀ query, url.withPath url.path query = .ok located → located.path = url.path ∧
      (located.resolvesDots = true → url.resolvesDots = true) := by
    intro query placed
    have resolved := resolvesDots_of_withParts placed
    exact ⟨path_of_withParts settled.safe (fun resolves => settled.dotless (resolved resolves))
      placed, resolved⟩
  rw [withParams.eq_def] at given
  split at given
  · cases given
    exact ⟨rfl, id⟩
  · exact kept _ given
  · exact kept _ given

end Url

end Rulebook
