import Mathlib
import Rulebook.Proofs.Http.Issued
import Rulebook.Proofs.Http.Settled
import Rulebook.Proofs.Service.Routes
import Rulebook.Proofs.Text.Percent
import Rulebook.Service.Providers

/-!
# Where requests go

Rules and providers are named in the path: every route is a row of fixed words, or has one segment
among them that stands for the name of a rule or a provider. A request is at its place if its path
is the path of the base address with this row behind it, the name being a single segment that
decodes to it. Escaping makes a single segment of every name, but it leaves dots as they are, and
where dots are resolved a name of one or two dots is no segment: its request goes to another route.
A base address with a query takes all routes into the query.
-/

namespace Rulebook

/-- A place below the base address. -/
inductive Place
  /-- One of many things: the word for all of them, its name, and words behind it. -/
  | member (collection : String) (name : List Char) (below : List String)
  | fixed (words : List String)

namespace Place

/-- The path of these words. -/
def written (words : List String) : List Char :=
  words.flatMap fun word => '/' :: word.toList

/-- The route of a place, with the name in escapes. -/
def route : Place → List Char
  | member collection name below =>
      '/' :: collection.toList ++ '/' :: Text.percentEncode name ++ written below
  | fixed words => written words

/-- The name is a single segment that decodes to it, and everything else is as it is written. -/
def HasPath (base : Url) (path : List Char) : Place → Prop
  | member collection name below => ∃ segment, segment ≠ [] ∧ '/' ∉ segment ∧
      Text.percentDecode segment = name ∧
      path = base.above ++ '/' :: collection.toList ++ '/' :: segment ++ written below
  | fixed words => path = base.above ++ written words

/-- The name would not be a segment of its own. -/
def HasDots : Place → Prop
  | member _ name _ => Text.IsDots name
  | fixed _ => False

/-- The word needs no escape and is no dot. -/
structure IsWord (word : String) : Prop where
  filled : word.toList ≠ []
  unreserved : ∀ character ∈ word.toList, Text.isUnreserved character = true
  named : ¬Text.IsDots word.toList

/-- The words of the place are words, and there is one; and it has a name where it needs one. -/
def IsNamed : Place → Prop
  | member collection name below =>
      IsWord collection ∧ name ≠ [] ∧ ∀ word ∈ below, IsWord word
  | fixed words => words ≠ [] ∧ ∀ word ∈ words, IsWord word

end Place

/-- The places of the three candidates of an update. -/
def updatePlaces (id : List Char) (payload : Json.Fields) : List Place :=
  [.member "automations" id [], .member "automations" id [],
    if isComplete payload then .fixed ["automations"] else .member "automations" id []]

/-- Where a removal may ask: three times at the rule itself. -/
def removalPlaces (id : List Char) : List Place :=
  List.replicate 3 (.member "automations" id [])

/-- The places of the candidates of an operation on a provider. -/
def ProviderOperation.places (key : List Char) : ProviderOperation → List Place
  | connect => [.member "integrations" key ["connect"], .fixed ["integrations", "connect"],
      .fixed ["integrations", "connect"]]
  | disconnect => [.member "integrations" key ["disconnect"], .member "integrations" key [],
      .fixed ["integrations", "disconnect"]]
  | sync => [.member "integrations" key ["sync"], .fixed ["integrations", "sync"],
      .member "sync" key []]
  | status => [.member "integrations" key ["status"], .fixed ["integrations", "status"]]

theorem Session.sent_record {σ : Type} (session : Session σ) (level : LogLevel)
    (message : List Char) : (session.record level message).sent = session.sent := rfl

namespace Client

variable {σ : Type}

/-- No response sends the client to another address. -/
def NeverRedirects (client : Client σ) : Prop :=
  ∀ request backend response, (client.answer request backend).1 = .response response →
    response.location? = none

/-- The requests of a call go to its places, in order, until no more are sent. -/
def StaysAt (client : Client σ) (places : List Place) (session : Session σ)
    (result : Except Failure Json × Session σ) : Prop :=
  ∃ requests reached, result.2.sent = session.sent ++ requests ∧ reached <+: places ∧
    List.Forall₂ (fun request place => place.HasPath client.base request.url.path) requests reached

/-- Where the place has an address at all, the base address has no query, and the name is not taken
for dots. -/
def TellsApart (client : Client σ) (place : Place) : Prop :=
  ∀ url, client.address (String.ofList place.route) = .ok url →
    client.base.query = none ∧ (url.resolvesDots = true → ¬place.HasDots)

end Client

/-! ## Routes -/

namespace Place

theorem written_cons (word : String) (rest : List String) :
    written (word :: rest) = '/' :: (word.toList ++ written rest) :=
  List.flatMap_cons

theorem written_eq_nil_or (words : List String) :
    written words = [] ∨ ∃ more, written words = '/' :: more := by
  cases words with
  | nil => exact Or.inl rfl
  | cons word rest => exact Or.inr ⟨_, written_cons word rest⟩

theorem isRouteChar_written {words : List String} (areWords : ∀ word ∈ words, IsWord word) :
    ∀ character ∈ written words, IsRouteChar character := by
  intro character mem
  rcases List.mem_flatMap.mp mem with ⟨word, inWords, inWord⟩
  rcases List.mem_cons.mp inWord with slash | held
  · exact Or.inr (Or.inr slash)
  · exact Or.inl ((areWords word inWords).unreserved character held)

theorem IsWord.head {word : String} (isWord : IsWord word) :
    ∃ first rest, word.toList = first :: rest ∧ first ≠ '/' := by
  rcases List.exists_cons_of_ne_nil isWord.filled with ⟨first, rest, held⟩
  refine ⟨first, rest, held, ?_⟩
  rintro rfl
  exact absurd (isWord.unreserved '/' (held ▸ List.mem_cons_self)) (by decide)

theorem IsNamed.isRoute {place : Place} (named : place.IsNamed) : IsRoute place.route := by
  cases place with
  | member collection name below =>
      rcases named with ⟨isWord, _, areWords⟩
      rcases isWord.head with ⟨first, rest, held, notSlash⟩
      refine ⟨⟨first, rest ++ '/' :: Text.percentEncode name ++ written below, ?_, notSlash⟩, ?_⟩
      · simp only [route, held, List.cons_append, List.append_assoc]
      · intro character mem
        simp only [route, List.cons_append, List.append_assoc, List.mem_cons,
          List.mem_append] at mem
        rcases mem with rfl | inWord | rfl | inName | inWords
        · exact Or.inr (Or.inr rfl)
        · exact Or.inl (isWord.unreserved character inWord)
        · exact Or.inr (Or.inr rfl)
        · exact (Text.of_mem_percentEncode inName).imp_right Or.inl
        · exact isRouteChar_written areWords character inWords
  | fixed words =>
      rcases named with ⟨some, areWords⟩
      rcases List.exists_cons_of_ne_nil some with ⟨word, more, rfl⟩
      rcases (areWords word List.mem_cons_self).head with ⟨first, rest, held, notSlash⟩
      refine ⟨⟨first, rest ++ written more, ?_, notSlash⟩, isRouteChar_written areWords⟩
      rw [route, written_cons, held, List.cons_append]

theorem IsWord.not_mem {word : String} (isWord : IsWord word) : '/' ∉ word.toList :=
  fun mem => absurd (isWord.unreserved '/' mem) (by decide)

/-- Words behind a segment are the further segments. -/
theorem splitAt_append_written {segment : List Char} {words : List String}
    (single : '/' ∉ segment) (areWords : ∀ word ∈ words, IsWord word) :
    Text.splitAt '/' (segment ++ written words) = segment :: words.map String.toList := by
  induction words generalizing segment with
  | nil =>
      rw [written, List.flatMap_nil, List.append_nil]
      exact Text.splitAt_of_not_mem single
  | cons word rest ih =>
      rw [List.forall_mem_cons] at areWords
      rw [written_cons, Text.splitAt_append_cons, Text.splitAt_of_not_mem single,
        ih areWords.1.not_mem areWords.2]
      rfl

theorem isDotless_append_written {segment : List Char} {words : List String}
    (single : '/' ∉ segment) (named : ¬Text.IsDots segment)
    (areWords : ∀ word ∈ words, IsWord word) : Text.IsDotless (segment ++ written words) := by
  rw [Text.IsDotless, splitAt_append_written single areWords, List.forall_mem_cons,
    List.forall_mem_map]
  exact ⟨named, fun word mem => (areWords word mem).named⟩

/-- The segment of a name is no dot unless the name is. -/
theorem isDotless_tail_route {place : Place} (named : place.IsNamed) (noDots : ¬place.HasDots) :
    Text.IsDotless place.route.tail := by
  cases place with
  | member collection name below =>
      rcases named with ⟨isWord, _, areWords⟩
      rw [route, List.cons_append, List.cons_append, List.tail_cons, List.append_assoc,
        List.cons_append, Text.isDotless_append_cons, Text.isDotless_of_not_mem isWord.not_mem]
      refine ⟨isWord.named, isDotless_append_written ?_ ?_ areWords⟩
      · exact Text.not_mem_percentEncode (by decide) name
      · exact fun dots => noDots (Url.isDots_encodePart dots)
  | fixed words =>
      rcases named with ⟨some, areWords⟩
      rcases List.exists_cons_of_ne_nil some with ⟨word, more, rfl⟩
      rw [List.forall_mem_cons] at areWords
      rw [route, written_cons, List.tail_cons]
      exact isDotless_append_written areWords.1.not_mem areWords.1.named areWords.2

theorem percentEncode_ne_nil {name : List Char} (filled : name ≠ []) :
    Text.percentEncode name ≠ [] := by
  have longer := Text.length_le_percentEncode name
  have positive := List.length_pos_iff.mpr filled
  exact List.ne_nil_of_length_pos (by omega)

/-- The route of a place behind the base address is a path of the place. -/
theorem hasPath_route {place : Place} (named : place.IsNamed) (base : Url) :
    place.HasPath base (base.above ++ place.route) := by
  cases place with
  | member collection name below =>
      refine ⟨Text.percentEncode name, percentEncode_ne_nil named.2.1,
        Text.not_mem_percentEncode (by decide) name, Text.percentDecode_percentEncode name, ?_⟩
      simp only [route, List.append_assoc, List.cons_append]
  | fixed words => rfl

/-- Every path of a member is longer than the words of its place, by two characters for the name and
its slash. -/
theorem length_lt_of_hasPath {base : Url} {path name : List Char} {collection : String}
    {below : List String} (atPlace : (member collection name below).HasPath base path) :
    base.above.length + 1 + collection.toList.length + (written below).length < path.length := by
  rcases atPlace with ⟨segment, filled, _, _, rfl⟩
  have positive := List.length_pos_iff.mpr filled
  simp only [List.length_append, List.length_cons]
  omega

end Place

/-! ## Paths of requests -/

namespace Client

variable {σ : Type} {client : Client σ} {request : Request} {candidate : Candidate} {place : Place}

/-- The address of a request is that of its route below the base address, with its parameters. -/
theorem exists_below_of_compose (route : IsRoute candidate.url.toList)
    (composed : client.compose candidate = .ok request) :
    ∃ below, client.base.withTarget (client.base.target ++ candidate.url.toList.tail) = .ok below ∧
      below.withParams candidate.params = .ok request.url := by
  rw [compose] at composed
  by_cases short : candidate.url.toList.length ≤ Url.maxLength
  · rw [route.parse short] at composed
    simp only [Url.extend_of_isRoute route] at composed
    cases placed : client.base.withTarget (client.base.target ++ candidate.url.toList.tail) with
    | error failure =>
        rw [placed] at composed
        cases composed
    | ok below =>
        rw [placed] at composed
        simp only [Except.bind] at composed
        refine ⟨below, rfl, ?_⟩
        split at composed
        · cases composed
        next url withParams =>
        split at composed
        · cases checked : checkHost url with
          | error failure =>
              rw [checked] at composed
              cases composed
          | ok _ =>
              rw [checked] at composed
              cases composed
              exact withParams
        · cases composed
  · rw [Url.parse_of_long (Nat.lt_of_not_le short)] at composed
    cases composed

theorem isPathSafe_tail_route (named : place.IsNamed) :
    ∀ character ∈ place.route.tail, Url.isPathSafe character = true :=
  fun character mem => (named.isRoute.chars character (List.mem_of_mem_tail mem)).isPathSafe

theorem cons_tail_route (named : place.IsNamed) : '/' :: place.route.tail = place.route := by
  rcases named.isRoute.head with ⟨first, rest, held, _⟩
  rw [held, List.tail_cons]

/-- Without a query in the base address, and where no dots are taken for a name, a request has a
path of its place. -/
theorem hasPath_of_compose (opened : client.base.IsOpen) (noQuery : client.base.query = none)
    (named : place.IsNamed) (url : candidate.url = String.ofList place.route)
    (composed : client.compose candidate = .ok request)
    (noDots : ∀ below, client.base.withTarget (client.base.target ++ place.route.tail) = .ok below →
      below.resolvesDots = true → ¬place.HasDots) :
    place.HasPath client.base request.url.path := by
  have text : candidate.url.toList = place.route := by
    rw [url, String.toList_ofList]
  rcases exists_below_of_compose (text ▸ named.isRoute) composed with ⟨below, placed, withParams⟩
  rw [text] at placed
  have path := opened.path_below noQuery (isPathSafe_tail_route named)
    (fun resolves => Place.isDotless_tail_route named (noDots below placed resolves)) placed
  have settled : below.IsSettled := Url.isSettled_of_withParts placed
  rw [(Url.path_of_withParams settled withParams).1, path, cons_tail_route named]
  exact Place.hasPath_route named client.base

/-- Dots for a name lead to another path. -/
theorem not_hasPath_of_hasDots (opened : client.base.IsOpen) (noQuery : client.base.query = none)
    (named : place.IsNamed) {url : Url}
    (placed : client.base.withTarget (client.base.target ++ place.route.tail) = .ok url)
    (resolves : url.resolvesDots = true) (dots : place.HasDots) :
    ¬place.HasPath client.base url.path := by
  intro atPlace
  cases place with
  | fixed words => exact dots
  | member collection name below =>
      have longer := Place.length_lt_of_hasPath atPlace
      have encoded : Text.percentEncode name = name := by
        rcases dots with rfl | rfl <;> decide
      have tail : (Place.member collection name below).route.tail =
          collection.toList ++ '/' :: (name ++ Place.written below) := by
        simp only [Place.route, encoded, List.cons_append, List.append_assoc, List.tail_cons]
      rw [tail] at placed
      have shorter := opened.length_path_below_le noQuery dots (Place.written_eq_nil_or below)
        (tail ▸ isPathSafe_tail_route named) resolves placed
      omega

theorem not_hasPath_of_query (opened : client.base.IsOpen) {query : List Char}
    (held : client.base.query = some query) {collection : String} {name : List Char}
    {below : List String} (named : (Place.member collection name below).IsNamed) {url : Url}
    (placed : client.base.withTarget
      (client.base.target ++ (Place.member collection name below).route.tail) = .ok url) :
    ¬(Place.member collection name below).HasPath client.base url.path := by
  intro atPlace
  have longer := Place.length_lt_of_hasPath atPlace
  have shorter := opened.length_path_of_query held (isPathSafe_tail_route named) placed
  omega

end Client

end Rulebook
