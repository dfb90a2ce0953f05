import Mathlib
import Rulebook.Http.Client
import Rulebook.Proofs.Text.Percent

/-!
# The addresses of routes

A route is a path from the root whose characters stand for themselves in an address. It is read as
the path that it is, and a client puts it below its base address. This fails for a route that is too
long, and for base addresses whose host cannot be named; so wherever a route has an address, each
beginning of it that still names its first segment has one too.
-/

namespace Rulebook

/-- The character stands for itself in a path and separates nothing but its segments. -/
def IsRouteChar (character : Char) : Prop :=
  Text.isUnreserved character = true ∨ character = '%' ∨ character = '/'

/-- A path from the root. -/
structure IsRoute (text : List Char) : Prop where
  /-- Its first segment is not empty. -/
  head : ∃ first rest, text = '/' :: first :: rest ∧ first ≠ '/'
  /-- No character of it needs an escape. -/
  chars : ∀ character ∈ text, IsRouteChar character

/-! ## Characters -/

namespace Text

theorem cutAt_of_not_mem {separator : Char} {text : List Char} (absent : separator ∉ text) :
    cutAt separator text = (text, none) := by
  induction text with
  | nil => rfl
  | cons first rest ih =>
      rw [List.mem_cons, not_or] at absent
      rw [cutAt, if_neg (Ne.symm absent.1), ih absent.2]

/-- A separator in front of the cut decides, and otherwise the first one behind it. -/
theorem cutAt_append (separator : Char) (front text : List Char) :
    cutAt separator (front ++ text) =
      match cutAt separator front with
      | (before, some after) => (before, some (after ++ text))
      | (before, none) => (before ++ (cutAt separator text).1, (cutAt separator text).2) := by
  induction front with
  | nil => rfl
  | cons first rest ih =>
      rw [List.cons_append, cutAt, cutAt]
      split
      · rfl
      · rw [ih]
        cases cutAt separator rest with
        | mk before after => cases after <;> rfl

end Text

theorem Url.isPathSafe_of_isUnreserved {character : Char}
    (unreserved : Text.isUnreserved character = true) : isPathSafe character = true := by
  have range := Text.lt_toNat_of_isUnreserved unreserved
  have other : ∀ excluded ∈ [' ', '"', '#', '<', '>', '?', '`', '\x7b', '\x7d'],
      character ≠ excluded := by
    rintro excluded mem rfl
    revert unreserved
    simp only [List.mem_cons, List.not_mem_nil, or_false] at mem
    rcases mem with rfl | rfl | rfl | rfl | rfl | rfl | rfl | rfl | rfl <;> decide
  simp only [isPathSafe, isPrintableExcept, Bool.and_eq_true, decide_eq_true_eq,
    Bool.not_eq_true', List.contains_eq_mem, decide_eq_false_iff_not]
  exact ⟨⟨by omega, by omega⟩, fun mem => other character mem rfl⟩

theorem IsRouteChar.isPathSafe {character : Char} (char : IsRouteChar character) :
    Url.isPathSafe character = true := by
  rcases char with unreserved | rfl | rfl
  · exact Url.isPathSafe_of_isUnreserved unreserved
  · decide
  · decide

theorem IsRouteChar.isControl {character : Char} (char : IsRouteChar character) :
    Url.isControl character = false := by
  rcases char with unreserved | rfl | rfl
  · have range := Text.lt_toNat_of_isUnreserved unreserved
    simp only [Url.isControl, Bool.or_eq_false_iff, decide_eq_false_iff_not, beq_eq_false_iff_ne]
    omega
  · decide
  · decide

theorem not_isRouteChar_of_mem_separators {character : Char} (mem : character ∈ ['#', '?']) :
    ¬IsRouteChar character := by
  simp only [List.mem_cons, List.not_mem_nil, or_false] at mem
  rcases mem with rfl | rfl
  · rintro (unreserved | same | same)
    · exact absurd unreserved (by decide)
    · cases same
    · cases same
  · rintro (unreserved | same | same)
    · exact absurd unreserved (by decide)
    · cases same
    · cases same

/-! ## Reading routes -/

namespace IsRoute

variable {text : List Char}

theorem not_mem {separator : Char} (route : IsRoute text) (mem : separator ∈ ['#', '?']) :
    separator ∉ text :=
  fun inText => not_isRouteChar_of_mem_separators mem (route.chars separator inText)

/-- The reference that consists of the route alone. -/
theorem parse (route : IsRoute text) (short : text.length ≤ Url.maxLength) :
    Url.parse text = .ok ⟨[], [], [], none, text, none, none⟩ := by
  have noControl : Url.controlIn? text = none := by
    rw [Url.controlIn?, List.find?_eq_none]
    intro entry mem
    have inText : entry.1 ∈ text := (List.mem_zipIdx' mem).2 ▸ List.getElem_mem _
    simp [(route.chars entry.1 inText).isControl]
  have noFragment := Text.cutAt_of_not_mem (@not_mem text '#' route (by decide))
  have noQuery := Text.cutAt_of_not_mem (@not_mem text '?' route (by decide))
  have unchanged : Url.encodePart Url.isPathSafe text = text := by
    have safe : ∀ character ∈ text, Text.escapeUnless Url.isPathSafe character = [character] :=
      fun character mem => if_pos (route.chars character mem).isPathSafe
    rw [Url.encodePart, List.flatMap_congr safe, List.flatMap_singleton']
  have noHost : Url.parseAuthority [] [] = .ok ⟨[], [], [], none, [], none, none⟩ := by
    decide +kernel
  rcases route.head with ⟨first, rest, rfl, notSlash⟩
  have noScheme : Url.cutScheme ('/' :: first :: rest) = ([], '/' :: first :: rest) := rfl
  rw [Url.parse, if_neg (Nat.not_lt.mpr short), noControl]
  simp only [noScheme, notSlash, List.cons.injEq, true_and, false_and, imp_false,
    not_false_eq_true, implies_true, noHost, noFragment, noQuery]
  simp [Url.locate, Url.hasAuthority, unchanged, notSlash.symm]

end IsRoute

theorem Url.parse_of_long {text : List Char} (long : maxLength < text.length) :
    Url.parse text = .error (.invalidUrl "URL too long") := by
  rw [Url.parse, if_pos long]

/-! ## Below a base address -/

namespace Url

/-- The path can stand behind the host of the address, or alone where there is none. -/
structure Fits (url : Url) (path : List Char) : Prop where
  /-- Behind a host a path begins at the root. -/
  rooted : url.hasAuthority = true → path = [] ∨ path.head? = some '/'
  /-- A path alone cannot be taken for a host or a scheme. -/
  alone : url.hasAuthority = false → url.scheme = [] →
    ¬['/', '/'] <+: path ∧ ¬[':'] <+: path

/-- Only the first two characters of a path say whether it fits. -/
theorem Fits.of_take {url : Url} {path other : List Char} (fits : url.Fits path)
    (same : other.take 2 = path.take 2) : url.Fits other := by
  rcases path with _ | ⟨first, _ | ⟨second, rest⟩⟩
  · rcases other with _ | ⟨_, _⟩
    · exact fits
    · simp at same
  · rcases other with _ | ⟨_, _ | ⟨_, _⟩⟩
    · simp at same
    · cases same
      exact fits
    · simp at same
  · rcases other with _ | ⟨_, _ | ⟨_, _⟩⟩
    · simp at same
    · simp at same
    · simp only [List.take_succ_cons, List.take_zero, List.cons.injEq, and_true] at same
      rcases same with ⟨rfl, rfl⟩
      refine ⟨?_, ?_⟩
      · intro authority
        simpa using fits.rooted authority
      · intro noAuthority noScheme
        simpa using fits.alone noAuthority noScheme

theorem fits_iff {url : Url} {path : List Char} :
    url.Fits path ↔
      ¬(url.hasAuthority && !path.isEmpty && path.head? != some '/') = true ∧
      ¬(!url.hasAuthority && url.scheme.isEmpty && ['/', '/'].isPrefixOf path) = true ∧
      ¬(!url.hasAuthority && url.scheme.isEmpty && [':'].isPrefixOf path) = true := by
  simp only [Bool.and_eq_true, Bool.not_eq_true', List.isEmpty_eq_false_iff, bne_iff_ne,
    List.isEmpty_iff, List.isPrefixOf_iff_prefix, not_and, and_imp, ne_eq, Decidable.not_not]
  constructor
  · intro fits
    exact ⟨fun authority filled => (fits.rooted authority).resolve_left filled,
      fun noAuthority noScheme => (fits.alone noAuthority noScheme).1,
      fun noAuthority noScheme => (fits.alone noAuthority noScheme).2⟩
  · rintro ⟨rooted, noHost, noScheme⟩
    refine ⟨?_, fun bare plain => ⟨noHost bare plain, noScheme bare plain⟩⟩
    intro authority
    by_cases empty : path = []
    · exact Or.inl empty
    · exact Or.inr (rooted authority empty)

theorem locate_eq_ok_iff {url result : Url} {path : List Char} {query : Option (List Char)} :
    url.locate path query = .ok result ↔ url.Fits path ∧
      result = { url with
        path := encodePart isPathSafe
          (if url.hasAuthority || !url.scheme.isEmpty then resolveDots path else path)
        query := query.map (encodePart isQuerySafe) } := by
  rw [fits_iff, locate]
  split
  · next unrooted => simp [unrooted]
  split
  · next host => simp [host]
  split
  · next scheme => simp [scheme]
  · next rooted noHost noScheme =>
    simp only [rooted, noHost, noScheme, Bool.false_eq_true, not_false_eq_true, true_and,
      Except.ok.injEq]
    exact eq_comm

/-- No part of an address may be too long, and the path must fit. -/
theorem withParts_eq_ok_iff {url result : Url} {path : List Char}
    {query fragment : Option (List Char)} :
    url.withParts path query fragment = .ok result ↔
      url.authority.length ≤ maxLength ∧ path.length ≤ maxLength ∧
      (∀ part, query = some part → part.length ≤ maxLength) ∧
      (∀ part, fragment = some part → part.length ≤ maxLength) ∧
      ∃ host, normalizeHost (bracketedHost url.host) = .ok host ∧
        ({ url with
            host := host
            port := if defaultPort? url.scheme = url.port then none else url.port
            fragment := fragment.map (encodePart isFragmentSafe) } : Url).locate path query =
          .ok result := by
  have fitting : ∀ part : Option (List Char),
      ¬(part.any (maxLength < ·.length)) = true ↔
        ∀ text, part = some text → text.length ≤ maxLength := by
    intro part
    cases part <;> simp
  simp only [withParts]
  split
  · next long => simp [show ¬url.authority.length ≤ maxLength by simpa using long]
  next authority =>
  split
  · next long => simp [show ¬path.length ≤ maxLength by simpa using long]
  next path =>
  split
  · next long =>
    have tooLong := mt (fitting query).mpr (not_not_intro long)
    simp only [tooLong, false_and, and_false, reduceCtorEq]
  next query =>
  split
  · next long =>
    have tooLong := mt (fitting fragment).mpr (not_not_intro long)
    simp only [tooLong, false_and, and_false, reduceCtorEq]
  next fragment =>
  rw [fitting] at authority path query fragment
  simp only [Option.some.injEq, forall_eq'] at authority path
  cases normalizeHost (bracketedHost url.host) with
  | error failure => simp
  | ok host =>
      simp only [authority, path, true_and, Except.ok.injEq, exists_eq_left']
      constructor
      · exact fun located => ⟨query, fragment, located⟩
      · exact fun parts => parts.2.2

/-- A path and a query that are no longer, and a path that begins alike, lead to an address of the
same server. -/
theorem withParts_of_shorter {url wide : Url} {path narrowPath : List Char}
    {query narrowQuery fragment : Option (List Char)}
    (located : url.withParts path query fragment = .ok wide)
    (pathLength : narrowPath.length ≤ path.length) (start : narrowPath.take 2 = path.take 2)
    (queryLength : ∀ narrow, narrowQuery = some narrow →
      ∃ part, query = some part ∧ narrow.length ≤ part.length) :
    ∃ narrow, url.withParts narrowPath narrowQuery fragment = .ok narrow ∧
      narrow.host = wide.host ∧ narrow.port = wide.port := by
  rcases withParts_eq_ok_iff.mp located with
    ⟨authorityFits, pathFits, queryFits, fragmentFits, host, named, placed⟩
  rcases locate_eq_ok_iff.mp placed with ⟨fits, rfl⟩
  have narrowQueryFits : ∀ part, narrowQuery = some part → part.length ≤ maxLength := by
    intro narrow same
    rcases queryLength narrow same with ⟨part, held, shorter⟩
    exact shorter.trans (queryFits part held)
  refine ⟨_, withParts_eq_ok_iff.mpr ⟨authorityFits, pathLength.trans pathFits, narrowQueryFits,
    fragmentFits, host, named, locate_eq_ok_iff.mpr ⟨fits.of_take start, rfl⟩⟩, rfl, rfl⟩

/-- What is put below a base address stands at the end of its path, or of its query where it has
one. -/
theorem withTarget_append {base : Url} {suffix : List Char} (noQuery : '?' ∉ suffix) :
    base.withTarget (base.target ++ suffix) =
      match Text.cutAt '?' base.target with
      | (path, some query) => base.withPath path (some (query ++ suffix))
      | (path, none) => base.withPath (path ++ suffix) none := by
  rw [withTarget, Text.cutAt_append, Text.cutAt_of_not_mem noQuery]
  cases Text.cutAt '?' base.target with
  | mk path query => cases query <;> rfl

/-- Below a base address each beginning of what has an address has one of the same server. -/
theorem withTarget_of_shorter {base wide : Url} {start more : List Char}
    (noQuery : '?' ∉ start ++ more) (long : 2 ≤ start.length)
    (located : base.withTarget (base.target ++ (start ++ more)) = .ok wide) :
    ∃ narrow, base.withTarget (base.target ++ start) = .ok narrow ∧
      narrow.host = wide.host ∧ narrow.port = wide.port := by
  have noQueryStart : '?' ∉ start := fun mem => noQuery (List.mem_append_left more mem)
  rw [withTarget_append noQuery] at located
  rw [withTarget_append noQueryStart]
  cases cut : Text.cutAt '?' base.target with
  | mk path query =>
      rw [cut] at located
      cases query with
      | some query => exact withParts_of_shorter located le_rfl rfl (by simp)
      | none =>
          refine withParts_of_shorter located (by simp) ?_ (by simp)
          rw [← List.append_assoc]
          have enough : 2 ≤ (path ++ start).length := by
            rw [List.length_append]
            omega
          exact (List.take_append_of_le_length enough).symm

/-- A route goes below a base address without the slash at its head. -/
theorem extend_of_isRoute {base : Url} {text : List Char} (route : IsRoute text) :
    base.extend ⟨[], [], [], none, text, none, none⟩ =
      base.withTarget (base.target ++ text.tail) := by
  rcases route.head with ⟨first, rest, rfl, notSlash⟩
  simp [extend, isAbsolute, target, notSlash]

end Url

namespace Client

variable {σ : Type} {client : Client σ}

/-- The address of a route below the base address of a client. -/
def address (client : Client σ) (route : String) : Except Failure Url :=
  (Url.parse route.toList).bind fun reference =>
    (client.base.extend reference).bind fun url => (checkHost url).map fun () => url

/-- A candidate without parameters is composed exactly if its body can be written and its route has
an address, and then to the request with its method and body at this address. -/
theorem compose_eq_ok_iff {method route : String} {body : Json} {request : Request} :
    client.compose ⟨method, route, body, none⟩ = .ok request ↔
      body.isFinite = true ∧ ∃ url, client.address route = .ok url ∧
        request = ⟨String.ofList (Text.upper method.toList), url, client.headersFor url,
          bodyOf body⟩ := by
  rw [compose, address]
  cases Url.parse route.toList with
  | error failure => simp [Except.bind]
  | ok reference =>
      simp only [Except.bind]
      cases client.base.extend reference with
      | error failure => simp
      | ok url =>
          simp only [Url.withParams, Candidate.verb]
          cases checkHost url with
          | error failure => cases body.isFinite <;> simp [Except.map]
          | ok _ => cases body.isFinite <;> simp [Except.map, eq_comm]

/-- Whether a request goes through to a host depends on the host and the port alone. -/
theorem checkHost_congr {url other : Url} (host : other.host = url.host)
    (port : other.port = url.port) : checkHost other = checkHost url := by
  simp only [checkHost, Url.shownHost, Url.hostText, host, port]

/-- A route has an address if it is not too long and what it stands for below the base address has
a host that can be named. -/
theorem address_eq_ok_iff {route : String} (isRoute : IsRoute route.toList) {url : Url} :
    client.address route = .ok url ↔ route.toList.length ≤ Url.maxLength ∧
      client.base.withTarget (client.base.target ++ route.toList.tail) = .ok url ∧
      checkHost url = .ok () := by
  rw [address]
  by_cases short : route.toList.length ≤ Url.maxLength
  · rw [isRoute.parse short, Except.bind, Url.extend_of_isRoute isRoute]
    cases client.base.withTarget (client.base.target ++ route.toList.tail) with
    | error failure => simp [Except.bind]
    | ok other =>
        simp only [Except.bind, short, true_and, Except.ok.injEq]
        cases checked : checkHost other with
        | error failure =>
            simp only [Except.map, reduceCtorEq, false_iff, not_and]
            rintro rfl
            simp [checked]
        | ok _ =>
            simp only [Except.map, Except.ok.injEq, iff_self_and]
            rintro rfl
            exact checked
  · rw [Url.parse_of_long (Nat.lt_of_not_le short)]
    simp [Except.bind, short]

/-- Where a longer route has an address, a shorter one that it continues has one as well. -/
theorem exists_address_of_append {start more : String} (route : IsRoute (start ++ more).toList)
    (shorter : IsRoute start.toList) (long : 2 < start.toList.length) {url : Url}
    (located : client.address (start ++ more) = .ok url) :
    ∃ other, client.address start = .ok other := by
  rcases (address_eq_ok_iff route).mp located with ⟨short, placed, checked⟩
  rw [String.toList_append] at route short placed
  have noQuery : '?' ∉ start.toList.tail ++ more.toList := by
    intro mem
    apply @IsRoute.not_mem _ '?' route (by decide)
    rcases List.mem_append.mp mem with inStart | inMore
    · exact List.mem_append_left _ (List.mem_of_mem_tail inStart)
    · exact List.mem_append_right _ inMore
  have filled : start.toList ≠ [] := by
    rintro empty
    simp [empty] at long
  rw [List.tail_append_of_ne_nil filled] at placed
  rcases Url.withTarget_of_shorter noQuery (by rw [List.length_tail]; omega) placed with
    ⟨narrow, placedNarrow, host, port⟩
  rw [List.length_append] at short
  refine ⟨narrow, (address_eq_ok_iff shorter).mpr ⟨by omega, placedNarrow, ?_⟩⟩
  rw [checkHost_congr host port, checked]

end Client

end Rulebook
