import Mathlib
import Rulebook.Proofs.Service.Places
import Rulebook.Proofs.Service.Update
import Rulebook.Proofs.Text.Trimming

/-!
# Rules and providers keep to their routes

Of a chain of candidates each one has its place, so against a backend that does not redirect the
requests go to the first few of these places, in order. Whether they do is decided by the first
candidate, which is on the route of one rule or provider: its name must not consist of one or two
dots where dots are resolved, and the base address must not have a query.
-/

namespace Rulebook

namespace Client

variable {σ : Type} {client : Client σ} {request : Request} {place : Place}

/-! ## Chains of candidates -/

/-- Without redirects a turn takes the one request of its candidate. -/
theorem eq_nil_of_isSentOnce (steady : client.NeverRedirects) {turn : Turn σ}
    (once : client.IsSentOnce turn) {followUps : List Request}
    (requests : turn.requests = request :: followUps) : followUps = [] := by
  rcases once with ⟨first, others, _, sent, redirected⟩
  cases requests.symm.trans sent
  by_contra followed
  rcases redirected followed with ⟨response, answered, location⟩
  rw [steady _ _ _ answered] at location
  cases location

/-- The requests of a chain go to the places of the candidates, if each candidate has only requests
of its place. -/
theorem exists_reached (steady : client.NeverRedirects) {fallback : List Int}
    {candidates : List Candidate} {places : List Place}
    (fit : List.Forall₂ (fun candidate place => ∀ request, client.compose candidate = .ok request →
      place.HasPath client.base request.url.path) candidates places) (backend : σ) :
    ∃ reached, reached <+: places ∧
      List.Forall₂ (fun request place => place.HasPath client.base request.url.path)
        ((client.issued fallback candidates backend).flatMap Turn.requests) reached := by
  have sentOnce := @isSentOnce_of_mem_issued _ client fallback candidates backend
  rcases @exists_marked _ client fallback _ _ _ _ fit backend with ⟨reached, begins, atPlaces⟩
  refine ⟨reached, begins, ?_⟩
  generalize client.issued fallback candidates backend = turns at sentOnce atPlaces ⊢
  clear begins
  induction atPlaces with
  | nil => exact .nil
  | cons here _ ih =>
      rcases here with ⟨request, followUps, requests, atPlace⟩
      rw [List.forall_mem_cons] at sentOnce
      rw [List.flatMap_cons, requests, eq_nil_of_isSentOnce steady sentOnce.1 requests,
        List.singleton_append]
      exact .cons atPlace (ih sentOnce.2)

/-- Only what was sent before counts. -/
theorem staysAt_congr {places : List Place} {session noted : Session σ}
    (same : noted.sent = session.sent) (result : Except Failure Json × Session σ) :
    client.StaysAt places session result ↔ client.StaysAt places noted result := by
  rw [StaysAt, StaysAt, same]

/-- If the requests of a chain are at its places, then so is the first one. -/
theorem hasPath_of_staysAt {fallback : List Int} {first : Candidate} {later : List Candidate}
    {more : List Place} {session : Session σ}
    (stays : client.StaysAt (place :: more) session
      (client.resolve fallback (first :: later) session))
    (composed : client.compose first = .ok request) :
    place.HasPath client.base request.url.path := by
  rcases stays with ⟨requests, reached, sent, begins, atPlaces⟩
  rw [sent_resolve, List.append_cancel_left_eq, flatMap_issued_cons] at sent
  have isSent : (client.turn first session.backend).requests ≠ [] :=
    requests_ne_nil_iff.mpr ⟨request, composed⟩
  rcases isSentOnce_of_requests isSent with ⟨same, followUps, sameComposed, taken, _⟩
  rw [candidate_turn, composed] at sameComposed
  cases sameComposed
  rw [taken, List.cons_append] at sent
  subst sent
  cases atPlaces with
  | cons here _ =>
      rw [List.cons_prefix_cons] at begins
      exact begins.1 ▸ here

/-- The members among the places of a chain all have the name of the first. -/
structure IsChain (first : Place) (candidates : List Candidate) (places : List Place) : Prop where
  urls : candidates.map Candidate.url = places.map fun place => String.ofList place.route
  named : ∀ place ∈ places, place.IsNamed
  dots : ∀ place ∈ places, place.HasDots → first.HasDots

theorem forall₂_hasPath {first : Place} {candidates : List Candidate} {places : List Place}
    (chain : IsChain first candidates places) (opened : client.base.IsOpen)
    (noQuery : client.base.query = none) {url : Url} {start : List Char}
    (placed : client.base.withTarget start = .ok url)
    (noDots : url.resolvesDots = true → ¬first.HasDots) :
    List.Forall₂ (fun candidate place => ∀ request, client.compose candidate = .ok request →
      place.HasPath client.base request.url.path) candidates places := by
  rcases chain with ⟨urls, named, dots⟩
  induction candidates generalizing places with
  | nil =>
      rw [List.map_nil, eq_comm, List.map_eq_nil_iff] at urls
      exact urls ▸ .nil
  | cons candidate later ih =>
      cases places with
      | nil => cases urls
      | cons place more =>
          rw [List.map_cons, List.map_cons, List.cons.injEq] at urls
          rw [List.forall_mem_cons] at named dots
          refine .cons (fun request composed => ?_) (ih urls.2 named.2 dots.2)
          refine hasPath_of_compose opened noQuery named.1 urls.1 composed ?_
          intro below placedBelow resolves hasDots
          rw [Url.resolvesDots_congr placed placedBelow] at resolves
          exact noDots resolves (dots.1 hasDots)

/-- The requests of a chain go to its places exactly if its first place is told apart, or nothing is
sent because the first body cannot be written. -/
theorem staysAt_resolve_iff (opened : client.base.IsOpen) (steady : client.NeverRedirects)
    {collection method route : String} {name : List Char} {below : List String} {body : Json}
    {later : List Candidate} {more : List Place}
    (chain : IsChain (.member collection name below) (⟨method, route, body, none⟩ :: later)
      (.member collection name below :: more)) (fallback : List Int) (session : Session σ) :
    client.StaysAt (.member collection name below :: more) session
        (client.resolve fallback (⟨method, route, body, none⟩ :: later) session) ↔
      (body.isFinite = true → client.TellsApart (.member collection name below)) := by
  have named := chain.named _ List.mem_cons_self
  have same : route = String.ofList (Place.member collection name below).route :=
    (List.cons.inj chain.urls).1
  have isRoute : IsRoute route.toList := by
    rw [same, String.toList_ofList]
    exact named.isRoute
  rw [TellsApart, ← same]
  constructor
  · intro stays finite url located
    have composed : client.compose ⟨method, route, body, none⟩ =
        .ok ⟨String.ofList (Text.upper method.toList), url, client.headersFor url, bodyOf body⟩ :=
      compose_eq_ok_iff.mpr ⟨finite, url, located, rfl⟩
    have atPlace := hasPath_of_staysAt stays composed
    rcases (address_eq_ok_iff isRoute).mp located with ⟨_, placed, _⟩
    rw [same, String.toList_ofList] at placed
    have noQuery : client.base.query = none := by
      rw [Option.eq_none_iff_forall_ne_some]
      exact fun query held => not_hasPath_of_query opened held named placed atPlace
    exact ⟨noQuery, fun resolves dots =>
      not_hasPath_of_hasDots opened noQuery named placed resolves dots atPlace⟩
  · intro apart
    by_cases sent : (client.turn ⟨method, route, body, none⟩ session.backend).requests = []
    · have unsent : client.issued fallback (⟨method, route, body, none⟩ :: later)
          session.backend = [] := by
        by_contra some
        exact issued_ne_nil_iff.mp some sent
      refine ⟨[], [], ?_, List.nil_prefix, .nil⟩
      rw [sent_resolve, unsent, List.flatMap_nil]
    · rcases requests_ne_nil_iff.mp sent with ⟨request, composed⟩
      rcases compose_eq_ok_iff.mp composed with ⟨finite, url, located, _⟩
      rcases (address_eq_ok_iff isRoute).mp located with ⟨_, placed, _⟩
      rcases apart finite url located with ⟨noQuery, noDots⟩
      rcases exists_reached steady (forall₂_hasPath chain opened noQuery placed noDots)
        session.backend with ⟨reached, begins, atPlaces⟩
      exact ⟨_, reached, sent_resolve, begins, atPlaces⟩

/-! ## Rules and providers -/

theorem exists_asBase_of_create {api : ApiSettings} {answer : Request → σ → Reply × σ}
    (created : Client.create api answer = .ok client) :
    ∃ url : Url, url.IsSettled ∧ url.asBase = .ok client.base := by
  rw [create] at created
  split at created
  · cases created
  next url read =>
  split at created
  · cases created
  next base extended =>
  split at created
  · cases created
  · cases created
    exact ⟨url, Url.isSettled_of_parse read, extended⟩

theorem isOpen_of_create {api : ApiSettings} {answer : Request → σ → Reply × σ}
    (created : Client.create api answer = .ok client) : client.base.IsOpen := by
  rcases exists_asBase_of_create created with ⟨url, settled, extended⟩
  exact Url.isOpen_of_asBase settled extended

end Client

namespace Place

theorem isWord_automations : IsWord "automations" :=
  ⟨by simp, by simp [Text.isUnreserved], by simp [Text.IsDots]⟩

theorem isWord_integrations : IsWord "integrations" :=
  ⟨by simp, by simp [Text.isUnreserved], by simp [Text.IsDots]⟩

theorem isWord_name (operation : ProviderOperation) : IsWord operation.name := by
  cases operation <;>
    exact ⟨by simp [ProviderOperation.name], by simp [ProviderOperation.name, Text.isUnreserved],
      by simp [ProviderOperation.name, Text.IsDots]⟩

theorem route_rule (id : String) :
    String.ofList (member "automations" id.toList []).route = ruleRoute (.str id) := by
  change String.ofList ('/' :: "automations".toList ++ '/' :: Text.percentEncode id.toList ++
    written []) = String.ofList ("/automations/".toList ++ Text.percentEncode id.toList)
  generalize Text.percentEncode id.toList = segment
  simp [written]

theorem route_provider (key : List Char) (operation : ProviderOperation) :
    String.ofList (member "integrations" key [operation.name]).route =
      providerRoute "/integrations/" key ("/" ++ operation.name) := by
  change String.ofList ('/' :: "integrations".toList ++ '/' :: Text.percentEncode key ++
    written [operation.name]) =
      String.ofList ("/integrations/".toList ++ Text.percentEncode key ++
        ("/" ++ operation.name).toList)
  generalize Text.percentEncode key = segment
  simp [written]

theorem route_provider_alone (collection : String) (key : List Char) :
    String.ofList (member collection key []).route =
      providerRoute ("/" ++ collection ++ "/") key "" := by
  change String.ofList ('/' :: collection.toList ++ '/' :: Text.percentEncode key ++
    written []) =
      String.ofList (("/" ++ collection ++ "/").toList ++ Text.percentEncode key ++ "".toList)
  generalize Text.percentEncode key = segment
  simp [written]

theorem route_operation (operation : ProviderOperation) :
    String.ofList (fixed ["integrations", operation.name]).route =
      "/integrations/" ++ operation.name := by
  cases operation <;> decide +kernel

theorem isNamed_rule {id : List Char} (filled : id ≠ []) : (member "automations" id []).IsNamed :=
  ⟨isWord_automations, filled, by simp⟩

theorem isNamed_provider {key : List Char} (filled : key ≠ []) (operation : ProviderOperation) :
    (member "integrations" key [operation.name]).IsNamed :=
  ⟨isWord_integrations, filled, List.forall_mem_singleton.mpr (isWord_name operation)⟩

theorem isNamed_operation (operation : ProviderOperation) :
    (fixed ["integrations", operation.name]).IsNamed :=
  ⟨by simp, List.forall_mem_cons.mpr
    ⟨isWord_integrations, List.forall_mem_singleton.mpr (isWord_name operation)⟩⟩

end Place

/-- An operation begins on the route of its provider. -/
theorem ProviderOperation.exists_candidates (operation : ProviderOperation) (key : List Char) :
    ∃ method later, operation.candidates key =
      ⟨method, providerRoute "/integrations/" key ("/" ++ operation.name), .null, none⟩ ::
        later := by
  cases operation <;> exact ⟨_, _, rfl⟩

theorem ProviderOperation.exists_places (operation : ProviderOperation) (key : List Char) :
    ∃ more, operation.places key = .member "integrations" key [operation.name] :: more := by
  cases operation <;> exact ⟨_, rfl⟩

namespace Client

variable {σ : Type} {client : Client σ}

theorem isChain_update {id : String} (filled : id ≠ "") (payload : Json.Fields) :
    IsChain (.member "automations" id.toList []) (updateCandidates (.str id) payload)
      (updatePlaces id.toList payload) := by
  have named := Place.isNamed_rule (mt String.toList_eq_nil_iff.mp filled)
  have all : (Place.fixed ["automations"]).IsNamed :=
    ⟨by simp, List.forall_mem_singleton.mpr Place.isWord_automations⟩
  have allRoute : String.ofList (Place.fixed ["automations"]).route = rulesRoute := by
    decide +kernel
  rw [updateCandidates_eq, lastCandidate, updatePlaces]
  cases isComplete payload with
  | true =>
      exact ⟨by simp [Place.route_rule, allRoute], by simp [named, all], by simp [Place.HasDots]⟩
  | false => exact ⟨by simp [Place.route_rule], by simp [named], by simp⟩

theorem isChain_removal {id : String} (filled : id ≠ "") :
    IsChain (.member "automations" id.toList []) (removalCandidates (.str id))
      (removalPlaces id.toList) := by
  have named := Place.isNamed_rule (mt String.toList_eq_nil_iff.mp filled)
  exact ⟨by simp [removalCandidates, removalPlaces, Place.route_rule],
    by simp [removalPlaces, named], by simp [removalPlaces]⟩

theorem isChain_operation {key : List Char} (filled : key ≠ []) (operation : ProviderOperation) :
    IsChain (.member "integrations" key [operation.name]) (operation.candidates key)
      (operation.places key) := by
  have named := Place.isNamed_provider filled operation
  have fixed := Place.isNamed_operation operation
  have alone : ∀ collection, Place.IsWord collection → (Place.member collection key []).IsNamed :=
    fun collection isWord => ⟨isWord, filled, by simp⟩
  have route := Place.route_provider key operation
  have operationRoute := Place.route_operation operation
  have aloneRoute := fun collection => Place.route_provider_alone collection key
  cases operation with
  | connect =>
      refine ⟨?_, by simpa [ProviderOperation.places] using ⟨named, fixed⟩,
        by simp [ProviderOperation.places, Place.HasDots]⟩
      exact congrArg₂ _ route.symm (congrArg₂ _ operationRoute.symm
        (congrArg₂ _ operationRoute.symm rfl))
  | disconnect =>
      refine ⟨?_, by simpa [ProviderOperation.places] using
          ⟨named, alone _ Place.isWord_integrations, fixed⟩,
        by simp [ProviderOperation.places, Place.HasDots]⟩
      exact congrArg₂ _ route.symm (congrArg₂ _ (aloneRoute "integrations").symm
        (congrArg₂ _ operationRoute.symm rfl))
  | sync =>
      refine ⟨?_, by simpa [ProviderOperation.places] using
          ⟨named, fixed, alone _ (Place.isWord_name .sync)⟩,
        by simp [ProviderOperation.places, Place.HasDots]⟩
      exact congrArg₂ _ route.symm (congrArg₂ _ operationRoute.symm
        (congrArg₂ _ (aloneRoute "sync").symm rfl))
  | status =>
      refine ⟨?_, by simpa [ProviderOperation.places] using ⟨named, fixed⟩,
        by simp [ProviderOperation.places, Place.HasDots]⟩
      exact congrArg₂ _ route.symm (congrArg₂ _ operationRoute.symm rfl)

/-- An update, a removal and an operation on a provider send their requests to their places exactly
if the first of these is told apart, or nothing is sent because the payload of the update cannot be
written. -/
theorem staysAt_iff {api : ApiSettings} {answer : Request → σ → Reply × σ}
    (created : Client.create api answer = .ok client) (steady : client.NeverRedirects)
    (session : Session σ) :
    (∀ id, id ≠ "" →
      (∀ payload : Json.Fields,
        client.StaysAt (updatePlaces id.toList payload) session
            (client.updateRule (.str id) payload session) ↔
          ((Json.obj payload).isFinite = true →
            client.TellsApart (.member "automations" id.toList []))) ∧
      (client.StaysAt (removalPlaces id.toList) session (client.removeRule (.str id) session) ↔
        client.TellsApart (.member "automations" id.toList []))) ∧
    ∀ key : String, Text.trim key.toList ≠ [] → ∀ operation : ProviderOperation,
      client.StaysAt (operation.places (Text.trim key.toList)) session
          (client.operate operation (.str key) session) ↔
        client.TellsApart (.member "integrations" (Text.trim key.toList) [operation.name]) := by
  have opened := isOpen_of_create created
  refine ⟨fun id filled => ⟨fun payload => ?_, ?_⟩, fun key filled operation => ?_⟩
  · have chain := isChain_update filled payload
    rw [updateCandidates_eq] at chain
    rw [updateRule, updateCandidates_eq]
    exact staysAt_resolve_iff opened steady chain _ session
  · rw [removeRule, staysAt_congr (session.sent_record .info _)]
    exact (staysAt_resolve_iff opened steady (isChain_removal filled) _ _).trans
      (forall_prop_of_true rfl)
  · have trimmed : providerKey (.str key) = Text.trim key.toList := Json.trimmedText_str key
    have announced : ∃ noted : Session σ, noted.sent = session.sent ∧
        client.operate operation (.str key) session =
          client.resolve fallbackStatuses (operation.candidates (Text.trim key.toList)) noted := by
      rw [operate, trimmed, if_neg (by simpa using filled)]
      cases operation.announcement? with
      | some text =>
          exact ⟨session.record .info (text.toList ++ Text.trim key.toList), rfl, rfl⟩
      | none => exact ⟨session, rfl, rfl⟩
    have chain := isChain_operation filled operation
    rcases announced with ⟨noted, sameSent, run⟩
    rcases operation.exists_candidates (Text.trim key.toList) with ⟨method, later, candidates⟩
    rcases operation.exists_places (Text.trim key.toList) with ⟨more, places⟩
    rw [run, staysAt_congr sameSent, places, candidates]
    rw [candidates, places] at chain
    exact (staysAt_resolve_iff opened steady chain _ noted).trans (forall_prop_of_true rfl)

/-- A backend that knows no route. -/
def unrouted : Client Unit where
  base := ⟨"https".toList, [], "api.test".toList, none, [], none, none⟩
  headers := [("Content-Type", "application/json"), ("Accept", "application/json")]
  answer _ _ := (.response ⟨404, [], []⟩, ())

theorem created_unrouted :
    Client.create { ApiSettings.default with baseUrl := "https://api.test" } unrouted.answer =
      .ok unrouted := by
  have read : Url.parse "https://api.test".toList = .ok unrouted.base := by decide +kernel
  have extended : unrouted.base.asBase = .ok unrouted.base := by decide +kernel
  have plain : Headers.checkAscii unrouted.headers = .ok () := by decide +kernel
  have headers : ApiSettings.headers { ApiSettings.default with baseUrl := "https://api.test" } =
      unrouted.headers := by decide +kernel
  simp only [create, read, extended, headers, plain]

theorem neverRedirects_unrouted : unrouted.NeverRedirects := by
  rintro request backend _ ⟨⟩
  rfl

/-- An id with a slash in it stays one segment. -/
theorem staysAt_slash :
    let result := unrouted.removeRule (.str "a/b") (.start ())
    result.2.sent.map (fun request => (request.method, String.ofList request.url.path)) =
        [("DELETE", "/automations/a%2Fb"), ("PATCH", "/automations/a%2Fb"),
          ("POST", "/automations/a%2Fb")] ∧
      unrouted.StaysAt (removalPlaces "a/b".toList) (.start ()) result := by
  intro result
  refine ⟨by decide +kernel, ?_⟩
  refine (((staysAt_iff created_unrouted neverRedirects_unrouted (.start ())).1 "a/b"
    (by decide)).2).mpr ?_
  exact fun _ _ => ⟨rfl, fun _ => (by decide : ¬Text.IsDots "a/b".toList)⟩

/-- Two dots take the word for all rules away: the removal goes to the base address. -/
theorem not_staysAt_twoDots :
    let result := unrouted.removeRule (.str "..") (.start ())
    result.2.sent.map (fun request => (request.method, String.ofList request.url.path)) =
        [("DELETE", ""), ("PATCH", ""), ("POST", "")] ∧
      ¬unrouted.StaysAt (removalPlaces "..".toList) (.start ()) result := by
  intro result
  refine ⟨by decide +kernel, ?_⟩
  intro stays
  have run : result = unrouted.resolve fallbackStatuses (removalCandidates (.str ".."))
      ((Session.start ()).record .info ("Removing automation ".toList ++ "..".toList)) := rfl
  rw [run, staysAt_congr (Session.sent_record _ .info _)] at stays
  have composed : ∃ request, unrouted.compose ⟨"delete", ruleRoute (.str ".."), .null, none⟩ =
      .ok request ∧ request.url.path = [] := by
    refine ⟨⟨"DELETE", unrouted.base, unrouted.headers, []⟩, by decide +kernel, rfl⟩
  rcases composed with ⟨request, composed, nowhere⟩
  have longer := Place.length_lt_of_hasPath (hasPath_of_staysAt stays composed)
  rw [nowhere] at longer
  cases longer

end Client

end Rulebook
