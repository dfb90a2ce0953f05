import Mathlib
import Rulebook.Proofs.Http.Bodies
import Rulebook.Proofs.Service.Members

/-!
# Every candidate names the same provider

The candidates of an operation name their provider in three encodings: as a segment of the route, as
a field of a JSON body, or as a parameter of the query. Whoever answers decodes one of them, so the
operation acts on one provider whichever route answers only if they all decode to the same key. They
do for every key that is no dot: each of the encodings is undone by its decoding, and neither the
base address nor the client changes what they hold.
-/

namespace Rulebook

/-! ## Reading requests -/

/-- The segment of a target that stands behind the word for all providers and in front of the last
words, decoded. The target is the path; below a base address with a query it goes on into the
query. -/
def segmentOf? (collection : String) (below : List String) (target : List Char) :
    Option (List Char) :=
  let segments := Text.splitAt '/' target
  match segments.drop (segments.length - (below.length + 2)) with
  | first :: segment :: rest =>
      if first = collection.toList ∧ rest = below.map String.toList then
        some (Text.percentDecode segment)
      else none
  | _ => none

/-- The text in a field of a JSON body. -/
def fieldText? (name : String) (body : List UInt8) : Option (List Char) :=
  (Response.jsonOf? body).bind fun value =>
    match value.field name with
    | .str text => some text.toList
    | _ => none

/-- The value of the first parameter of a query that has the name, both of them decoded. -/
def parameterOf? (name : String) (query : List Char) : Option (List Char) :=
  (Text.splitAt '&' query).findSome? fun parameter =>
    match Text.cutAt '=' parameter with
    | (found, some value) =>
        if Text.formDecode found = name.toList then some (Text.formDecode value) else none
    | (_, none) => none

/-- Where a request names its provider. -/
inductive ProviderClue
  | segment (collection : String) (below : List String)
  | field (name : String)
  | parameter (name : String)
deriving DecidableEq, Repr

/-- The key of the provider that a request names. -/
def ProviderClue.recover? (request : Request) : ProviderClue → Option (List Char)
  | segment collection below => segmentOf? collection below request.url.target
  | field name => fieldText? name request.body
  | parameter name => request.url.query.bind (parameterOf? name)

/-- Where the candidates of an operation name their provider. -/
def ProviderOperation.clues : ProviderOperation → List ProviderClue
  | connect => [.segment "integrations" ["connect"], .field "provider", .field "key"]
  | disconnect => [.segment "integrations" ["disconnect"], .segment "integrations" [],
      .field "provider"]
  | sync => [.segment "integrations" ["sync"], .field "provider", .segment "sync" []]
  | status => [.segment "integrations" ["status"], .parameter "provider"]

/-- The turns in which a run issues some of its candidates. -/
structure Client.GoesThrough {σ : Type} (client : Client σ) (candidates : List Candidate)
    (session : Session σ) (result : Except Failure Json × Session σ) (turns : List (Turn σ)) :
    Prop where
  /-- The requests of the turns are sent, and no others. -/
  sent : result.2.sent = session.sent ++ turns.flatMap Turn.requests
  /-- Each turn finds the backend as the one before it left it. -/
  begins : turns <+: client.turns candidates session.backend
  issued : turns.map Turn.candidate <+: candidates
  /-- A candidate takes one request, and others only where the backend redirects. -/
  sentOnce : ∀ turn ∈ turns, client.IsSentOnce turn
  /-- Another candidate is issued only after a refusal that says that there is no such route. -/
  continued : ∀ turn ∈ turns.dropLast, ∃ response, turn.reply = .ok (.response response) ∧
    response.status ∈ [404, 405, 501]

/-- The key is what a receiver reads from the request of each turn, where its clue says. -/
def NamesInTurn {σ : Type} (key : List Char) (turns : List (Turn σ)) (clues : List ProviderClue) :
    Prop :=
  List.Forall₂ (fun turn clue => ∃ request followUps,
    turn.requests = request :: followUps ∧ clue.recover? request = some key) turns clues

/-! ## Encodings undone -/

theorem segmentOf?_route {collection : String} {name : List Char} {below : List String}
    (named : (Place.member collection name below).IsNamed) (front : List Char) :
    segmentOf? collection below (front ++ (Place.member collection name below).route) =
      some name := by
  rcases named with ⟨isWord, _, areWords⟩
  have segments : Text.splitAt '/' (front ++ (Place.member collection name below).route) =
      Text.splitAt '/' front ++
        collection.toList :: Text.percentEncode name :: below.map String.toList := by
    rw [Place.route, List.cons_append, List.cons_append, Text.splitAt_append_cons,
      List.append_assoc, List.cons_append, Text.splitAt_append_cons,
      Text.splitAt_of_not_mem isWord.not_mem,
      Place.splitAt_append_written (Text.not_mem_percentEncode (by decide) name) areWords]
    rfl
  have last : (Text.splitAt '/' front ++ collection.toList :: Text.percentEncode name ::
      below.map String.toList).length - (below.length + 2) = (Text.splitAt '/' front).length := by
    simp
  simp only [segmentOf?, segments, last, List.drop_left, and_self, if_true,
    Text.percentDecode_percentEncode]

theorem fieldText?_providerBody (field : String) (key : List Char) :
    fieldText? field (bodyOf (providerBody field key)) = some key := by
  have plain : (providerBody field key).IsPlain :=
    .obj (by simp [Json.Fields.Distinct]) (by simp [Json.IsPlain.str])
  rw [fieldText?, jsonOf?_bodyOf plain (by simp [providerBody]), Option.bind_some]
  simp [providerBody, Json.field, Json.fields, Json.Fields.get, Json.Fields.get?]

theorem queryOf_eq (name : String) (key : List Char) :
    Url.queryOf [(name, .str (String.ofList key))] =
      Text.formEncode name.toList ++ '=' :: Text.formEncode key := by
  simp [Url.queryOf, Url.paramText, Json.display, Text.join]

/-- A form has no character that needs an escape in a query. -/
theorem encodePart_queryOf (name : String) (key : List Char) :
    Url.encodePart Url.isQuerySafe (Url.queryOf [(name, .str (String.ofList key))]) =
      Url.queryOf [(name, .str (String.ofList key))] := by
  have safe : ∀ text, ∀ character ∈ Text.formEncode text, Url.isQuerySafe character = true := by
    intro text character mem
    rcases Text.of_mem_formEncode mem with unreserved | rfl | rfl
    · exact Url.isQuerySafe_of_isPathSafe (Url.isPathSafe_of_isUnreserved unreserved)
    · decide
    · decide
  rw [queryOf_eq]
  apply Url.encodePart_of_safe
  rw [List.forall_mem_append, List.forall_mem_cons]
  exact ⟨safe _, by decide, safe _⟩

theorem parameterOf?_queryOf (name : String) (key : List Char) :
    parameterOf? name (Url.queryOf [(name, .str (String.ofList key))]) = some key := by
  have single : '&' ∉ Text.formEncode name.toList ++ '=' :: Text.formEncode key := by
    have absent := @Text.not_mem_formEncode '&' (by decide) (by decide) (by decide)
    simp [absent]
  have noSign := @Text.not_mem_formEncode '=' (by decide) (by decide) (by decide) name.toList
  have parts : Text.cutAt '=' (Text.formEncode name.toList ++ '=' :: Text.formEncode key) =
      (Text.formEncode name.toList, some (Text.formEncode key)) := by
    rw [Text.cutAt_append, Text.cutAt_of_not_mem noSign]
    simp [Text.cutAt]
  simp [parameterOf?, queryOf_eq, Text.splitAt_of_not_mem single, parts, Text.formDecode_formEncode]

namespace Client

variable {σ : Type} {client : Client σ} {candidate : Candidate} {request : Request}

/-! ## Requests of candidates -/

theorem recover?_segment (opened : client.base.IsOpen)
    (ends : ∃ front, client.base.target = front ++ ['/']) {collection : String} {name : List Char}
    {below : List String} (named : (Place.member collection name below).IsNamed)
    (noDots : ¬Text.IsDots name)
    (url : candidate.url = String.ofList (Place.member collection name below).route)
    (noParams : candidate.params = none) (composed : client.compose candidate = .ok request) :
    (ProviderClue.segment collection below).recover? request = some name := by
  have text : candidate.url.toList = (Place.member collection name below).route := by
    rw [url, String.toList_ofList]
  rcases exists_below_of_compose (text ▸ named.isRoute) composed with ⟨below, placed, withParams⟩
  rw [noParams] at withParams
  cases withParams
  rw [text] at placed
  rcases opened.exists_target_below ends (isPathSafe_tail_route named)
    (fun _ => Place.isDotless_tail_route named noDots) placed with ⟨front, target⟩
  rw [cons_tail_route named] at target
  rw [ProviderClue.recover?, target]
  exact segmentOf?_route named front

theorem recover?_field {field method route : String} {key : List Char}
    (composed : client.compose ⟨method, route, providerBody field key, none⟩ = .ok request) :
    (ProviderClue.field field).recover? request = some key := by
  rcases compose_eq_ok_iff.mp composed with ⟨_, url, _, rfl⟩
  exact fieldText?_providerBody field key

theorem recover?_parameter {name : String} {key : List Char}
    (isRoute : IsRoute candidate.url.toList)
    (params : candidate.params = some [(name, .str (String.ofList key))])
    (composed : client.compose candidate = .ok request) :
    (ProviderClue.parameter name).recover? request = some key := by
  rcases exists_below_of_compose isRoute composed with ⟨below, _, withParams⟩
  rw [params] at withParams
  have query := Url.query_of_withParts withParams
  have plain := encodePart_queryOf name key
  rw [Option.map_some, plain] at query
  rw [ProviderClue.recover?, query, Option.bind_some]
  exact parameterOf?_queryOf name key

theorem forall₂_recover? (opened : client.base.IsOpen)
    (ends : ∃ front, client.base.target = front ++ ['/']) {key : List Char} (filled : key ≠ [])
    (noDots : ¬Text.IsDots key) (operation : ProviderOperation) :
    List.Forall₂ (fun candidate clue => ∀ request, client.compose candidate = .ok request →
      clue.recover? request = some key) (operation.candidates key) operation.clues := by
  have named := Place.isNamed_provider filled operation
  have route := (Place.route_provider key operation).symm
  have isRoute := (Place.isNamed_operation operation).isRoute
  rw [← @String.toList_ofList (Place.route _), Place.route_operation] at isRoute
  have alone (collection : String) (isWord : Place.IsWord collection) :
      (Place.member collection key []).IsNamed :=
    ⟨isWord, filled, by simp⟩
  have first (candidate : Candidate)
      (url : candidate.url = providerRoute "/integrations/" key ("/" ++ operation.name))
      (noParams : candidate.params = none) (request : Request)
      (composed : client.compose candidate = .ok request) :
      (ProviderClue.segment "integrations" [operation.name]).recover? request = some key :=
    recover?_segment opened ends named noDots (url.trans route) noParams composed
  have other (collection : String) (isWord : Place.IsWord collection) (candidate : Candidate)
      (url : candidate.url = providerRoute ("/" ++ collection ++ "/") key "")
      (noParams : candidate.params = none) (request : Request)
      (composed : client.compose candidate = .ok request) :
      (ProviderClue.segment collection []).recover? request = some key :=
    recover?_segment opened ends (alone collection isWord) noDots
      (url.trans (Place.route_provider_alone collection key).symm) noParams composed
  cases operation with
  | connect =>
      exact .cons (first _ rfl rfl) (.cons (fun _ => recover?_field)
        (.cons (fun _ => recover?_field) .nil))
  | disconnect =>
      exact .cons (first _ rfl rfl) (.cons (other _ Place.isWord_integrations _ rfl rfl)
        (.cons (fun _ => recover?_field) .nil))
  | sync =>
      exact .cons (first _ rfl rfl) (.cons (fun _ => recover?_field)
        (.cons (other _ (Place.isWord_name .sync) _ rfl rfl) .nil))
  | status =>
      exact .cons (first _ rfl rfl) (.cons (fun _ => recover?_parameter isRoute rfl) .nil)

/-! ## Runs -/

theorem goesThrough_resolve (client : Client σ) (candidates : List Candidate)
    (session : Session σ) :
    client.GoesThrough candidates session (client.resolve fallbackStatuses candidates session)
      (client.issued fallbackStatuses candidates session.backend) where
  sent := sent_resolve
  begins := issued_begins candidates session.backend
  issued := by
    have begins := @issued_begins _ client fallbackStatuses candidates session.backend
    have prefixed := begins.map Turn.candidate
    rwa [map_candidate_turns] at prefixed
  sentOnce := isSentOnce_of_mem_issued
  continued := by
    intro turn mem
    have falls := fallsThrough_of_mem_dropLast_issued turn mem
    rw [Turn.fallsThrough] at falls
    split at falls
    · next response replied =>
      simp only [Bool.and_eq_true, List.contains_iff_mem] at falls
      exact ⟨response, replied, falls.2⟩
    · cases falls

/-- Announcing an operation changes nothing but the log. -/
theorem goesThrough_record (level : LogLevel) (message : List Char) {candidates : List Candidate}
    {session : Session σ} {result : Except Failure Json × Session σ} {turns : List (Turn σ)} :
    client.GoesThrough candidates (session.record level message) result turns ↔
      client.GoesThrough candidates session result turns :=
  ⟨fun ⟨sent, begins, issued, sentOnce, continued⟩ => ⟨sent, begins, issued, sentOnce, continued⟩,
    fun ⟨sent, begins, issued, sentOnce, continued⟩ => ⟨sent, begins, issued, sentOnce, continued⟩⟩

theorem goesThrough_operate (operation : ProviderOperation) {provider : Json}
    (filled : providerKey provider ≠ []) (session : Session σ) :
    client.GoesThrough (operation.candidates (providerKey provider)) session
      (client.operate operation provider session)
      (client.issued fallbackStatuses (operation.candidates (providerKey provider))
        session.backend) := by
  rw [operate, if_neg (by simpa using filled)]
  cases operation.announcement? with
  | none => exact client.goesThrough_resolve _ session
  | some text => exact (goesThrough_record _ _).mp (client.goesThrough_resolve _ _)

/-- With a blank key nothing is sent. With any other key that is no dot the first few candidates of
the operation are issued, one after the other as long as there is no such route, and every one of
them names the provider with this key. -/
theorem operate_names_provider {api : ApiSettings} {answer : Request → σ → Reply × σ}
    (created : Client.create api answer = .ok client) (operation : ProviderOperation)
    (provider : Json) (session : Session σ) :
    (providerKey provider = [] →
      client.operate operation provider session = (.ok .null, session)) ∧
    (providerKey provider ≠ [] → ¬Text.IsDots (providerKey provider) →
      ∃ turns clues, client.GoesThrough (operation.candidates (providerKey provider)) session
          (client.operate operation provider session) turns ∧
        clues <+: operation.clues ∧ NamesInTurn (providerKey provider) turns clues) := by
  constructor
  · intro blank
    rw [operate, blank]
    rfl
  · intro filled noDots
    rcases exists_asBase_of_create created with ⟨url, settled, extended⟩
    have fit := forall₂_recover? (Url.isOpen_of_asBase settled extended)
      (Url.exists_target_eq_of_asBase settled extended) filled noDots operation
    rcases exists_marked fit session.backend with ⟨clues, begins, named⟩
    exact ⟨_, clues, goesThrough_operate operation filled session, begins, named⟩

/-- A key with a slash, a plus sign and a space in it is the same in a segment and in a query, and a
key of blanks is none. -/
theorem operate_names_provider_reserved :
    let provider : Json := .str " mail/étoile + co "
    let result := unrouted.operate .status provider (.start ())
    unrouted.operate .sync (.str " \t") (.start ()) = (.ok .null, .start ()) ∧
      providerKey provider = "mail/étoile + co".toList ∧
      result.2.sent.map (fun request => (request.method, String.ofList request.url.target)) =
        [("GET", "/integrations/mail%2F%C3%A9toile%20%2B%20co/status"),
          ("GET", "/integrations/status?provider=mail%2F%C3%A9toile+%2B+co")] ∧
      ∃ turns clues, unrouted.GoesThrough
          (ProviderOperation.status.candidates (providerKey provider)) (.start ()) result turns ∧
        clues <+: ProviderOperation.status.clues ∧
        NamesInTurn (providerKey provider) turns clues := by
  have key : providerKey (.str " mail/étoile + co ") = "mail/étoile + co".toList := by
    decide +kernel
  have sent : (unrouted.operate .status (.str " mail/étoile + co ") (.start ())).2.sent.map
      (fun request => (request.method, String.ofList request.url.target)) =
        [("GET", "/integrations/mail%2F%C3%A9toile%20%2B%20co/status"),
          ("GET", "/integrations/status?provider=mail%2F%C3%A9toile+%2B+co")] := by
    decide +kernel
  have nothing := (operate_names_provider created_unrouted .sync (.str " \t") (.start ())).1
    (by decide +kernel)
  refine ⟨nothing, key, sent, ?_⟩
  exact (operate_names_provider created_unrouted .status (.str " mail/étoile + co ")
    (.start ())).2 (by rw [key]; decide) (by rw [key]; decide)

end Client

end Rulebook
