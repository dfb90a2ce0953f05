import Mathlib
import Rulebook.Proofs.Http.Issued
import Rulebook.Proofs.Service.Routes

/-!
# What an update sends

An update hands the payload to the route of the rule, twice, and then creates the rule anew if the
payload is that of a whole rule. So a rule is created only from a whole payload, only after the
backend has refused both candidates on the route of the rule, and only by the last candidate.

This holds with two exceptions. Where the id is a lone dot, the route of the rule has the address of
the collection, so the second candidate creates a rule from whatever the payload holds. And where
the second refusal cannot be read, the last candidate is not issued.
-/

namespace Rulebook

/-- The payload is that of a whole rule: it has a name that is not blank, a trigger, and a list of
actions. -/
structure IsWholeRule (payload : Json.Fields) : Prop where
  named : ∃ name, payload.get "name" = .str name ∧ Text.trim name.toList ≠ []
  triggered : (payload.get "trigger").isTruthy = true
  listed : ∃ actions, payload.get "actions" = .arr actions

/-- The part of a payload with which a rule is created. -/
def creationFields (payload : Json.Fields) : Json.Fields :=
  ["name", "trigger", "actions", "active"].map fun name => (name, payload.get name)

namespace Client

variable {σ : Type}

/-- The turn creates a rule: its request is posted to the address of the collection. -/
def IsCreation (client : Client σ) (turn : Turn σ) : Prop :=
  ∃ request followUps, turn.requests = request :: followUps ∧ request.method = "POST" ∧
    client.address rulesRoute = .ok request.url

/-- Of the turns in which the candidates of an update are issued, the last one creates a rule if it
is to, and no other one does. -/
structure CreatesLast (client : Client σ) (payload : Json.Fields) (issued : List (Turn σ)) :
    Prop where
  /-- A rule is created exactly if the payload is whole and the backend refuses the two candidates
  before. -/
  creates : (∃ turn ∈ issued, client.IsCreation turn) ↔
    IsWholeRule payload ∧ ∃ first second later, issued = first :: second :: later ∧
      first.fallsThrough fallbackStatuses = true ∧ second.fallsThrough fallbackStatuses = true
  /-- It is created by the third candidate. -/
  third : ∀ index turn, issued[index]? = some turn → client.IsCreation turn → index = 2

/-- The turns in which candidates are issued are those that an update is to take. -/
structure IssuesUpdate (client : Client σ) (id : Json) (payload : Json.Fields)
    (session : Session σ) (issued : List (Turn σ)) (result : Except Failure Json × Session σ) :
    Prop extends client.CreatesLast payload issued where
  /-- The backend receives the requests of these turns, in order, and no others. -/
  sent : result.2.sent = session.sent ++ issued.flatMap Turn.requests
  /-- Every candidate is sent once, apart from redirects. -/
  once : ∀ turn ∈ issued, client.IsSentOnce turn
  /-- With a whole payload the last candidate posts four fields of it to the collection. -/
  whole : IsWholeRule payload → issued <+: client.turns
    [⟨"patch", ruleRoute id, .obj payload, none⟩, ⟨"post", ruleRoute id, .obj payload, none⟩,
      ⟨"post", rulesRoute, .obj (creationFields payload), none⟩] session.backend
  /-- With any other payload all candidates go to the route of the rule. -/
  incomplete : ¬IsWholeRule payload → issued <+: client.turns
    [⟨"patch", ruleRoute id, .obj payload, none⟩, ⟨"post", ruleRoute id, .obj payload, none⟩,
      ⟨"post", ruleRoute id, .obj payload, none⟩] session.backend

end Client

/-! ## Payloads -/

theorem isComplete_iff {payload : Json.Fields} :
    isComplete payload = true ↔ IsWholeRule payload := by
  simp only [isComplete, Bool.and_eq_true]
  constructor
  · rintro ⟨⟨named, triggered⟩, listed⟩
    refine ⟨?_, triggered, ?_⟩
    · split at named
      · next name held => exact ⟨name, held, by simpa using named⟩
      · cases named
    · cases held : payload.get "actions" with
      | arr actions => exact ⟨actions, rfl⟩
      | _ =>
          rw [held] at listed
          cases listed
  · rintro ⟨⟨name, held, filled⟩, triggered, actions, heldActions⟩
    simp [held, filled, triggered, heldActions, Json.isList]

theorem creationBody_of_isWholeRule {payload : Json.Fields} (whole : IsWholeRule payload) :
    creationBody payload = .obj (creationFields payload) := by
  rcases whole.listed with ⟨actions, held⟩
  simp [creationBody, creationFields, held]

theorem isFinite_get {payload : Json.Fields} (finite : (Json.obj payload).isFinite = true)
    (name : String) : (payload.get name).isFinite = true := by
  rw [Json.isFinite] at finite
  rw [Json.Fields.get, Json.Fields.get?]
  induction payload with
  | nil => rfl
  | cons first rest ih =>
      rcases first with ⟨held, value⟩
      rw [Json.fieldsFinite, Bool.and_eq_true] at finite
      rw [List.lookup_cons]
      split
      · exact finite.1
      · exact ih finite.2

theorem isFinite_creationFields {payload : Json.Fields}
    (finite : (Json.obj payload).isFinite = true) :
    (Json.obj (creationFields payload)).isFinite = true := by
  simp [creationFields, Json.isFinite, Json.fieldsFinite, isFinite_get finite]

/-! ## Candidates without parameters -/

namespace Client

variable {σ : Type} {client : Client σ} {backend : σ} {method route : String} {body : Json}

/-- A candidate is sent if its body can be written and its route has an address. -/
theorem requests_turn_ne_nil_iff :
    (client.turn ⟨method, route, body, none⟩ backend).requests ≠ [] ↔
      body.isFinite = true ∧ ∃ url, client.address route = .ok url := by
  rw [requests_ne_nil_iff]
  simp only [compose_eq_ok_iff]
  constructor
  · rintro ⟨request, finite, url, located, _⟩
    exact ⟨finite, url, located⟩
  · rintro ⟨finite, url, located⟩
    exact ⟨_, finite, url, located, rfl⟩

/-- Of the candidates that are sent those create a rule that post to the address of the
collection. -/
theorem isCreation_turn_iff (sent : (client.turn ⟨method, route, body, none⟩ backend).requests ≠ []) :
    client.IsCreation (client.turn ⟨method, route, body, none⟩ backend) ↔
      String.ofList (Text.upper method.toList) = "POST" ∧
        client.address route = client.address rulesRoute := by
  rcases isSentOnce_of_requests sent with ⟨request, followUps, composed, requests, _⟩
  rw [candidate_turn] at composed
  rcases compose_eq_ok_iff.mp composed with ⟨_, url, located, rfl⟩
  rw [IsCreation, requests, located]
  constructor
  · rintro ⟨_, _, same, posts, collection⟩
    cases same
    exact ⟨posts, collection.symm⟩
  · rintro ⟨posts, collection⟩
    exact ⟨_, _, rfl, posts, collection.symm⟩

theorem isCreation_post_iff (sent : (client.turn ⟨"post", route, body, none⟩ backend).requests ≠ []) :
    client.IsCreation (client.turn ⟨"post", route, body, none⟩ backend) ↔
      client.address route = client.address rulesRoute := by
  rw [isCreation_turn_iff sent, and_iff_right (by decide)]

theorem not_isCreation_patch
    (sent : (client.turn ⟨"patch", route, body, none⟩ backend).requests ≠ []) :
    ¬client.IsCreation (client.turn ⟨"patch", route, body, none⟩ backend) := by
  rw [isCreation_turn_iff sent]
  exact fun posts => absurd posts.1 (by decide)

end Client

/-! ## Candidates of an update -/

section Candidates

variable {σ : Type} {client : Client σ} {id : Json} {payload : Json.Fields} {method : String}
  {backend later : σ}

/-- The last candidate of an update. -/
def lastCandidate (id : Json) (payload : Json.Fields) : Candidate :=
  if isComplete payload then ⟨"post", rulesRoute, creationBody payload, none⟩
  else ⟨"post", ruleRoute id, .obj payload, none⟩

theorem updateCandidates_eq : updateCandidates id payload =
    [⟨"patch", ruleRoute id, .obj payload, none⟩, ⟨"post", ruleRoute id, .obj payload, none⟩,
      lastCandidate id payload] := rfl

theorem lastCandidate_of_isWholeRule (whole : IsWholeRule payload) :
    lastCandidate id payload = ⟨"post", rulesRoute, .obj (creationFields payload), none⟩ := by
  rw [lastCandidate, if_pos (isComplete_iff.mpr whole), creationBody_of_isWholeRule whole]

theorem lastCandidate_of_not_isWholeRule (incomplete : ¬IsWholeRule payload) :
    lastCandidate id payload = ⟨"post", ruleRoute id, .obj payload, none⟩ := by
  rw [lastCandidate, if_neg (mt isComplete_iff.mp incomplete)]

theorem updateCandidates_of_isWholeRule (whole : IsWholeRule payload) :
    updateCandidates id payload =
      [⟨"patch", ruleRoute id, .obj payload, none⟩, ⟨"post", ruleRoute id, .obj payload, none⟩,
        ⟨"post", rulesRoute, .obj (creationFields payload), none⟩] := by
  rw [updateCandidates_eq, lastCandidate_of_isWholeRule whole]

theorem updateCandidates_of_not_isWholeRule (incomplete : ¬IsWholeRule payload) :
    updateCandidates id payload =
      [⟨"patch", ruleRoute id, .obj payload, none⟩, ⟨"post", ruleRoute id, .obj payload, none⟩,
        ⟨"post", ruleRoute id, .obj payload, none⟩] := by
  rw [updateCandidates_eq, lastCandidate_of_not_isWholeRule incomplete]

namespace Client

/-- Where one candidate on the route of the rule is sent, the last candidate would be as well. -/
theorem requests_lastCandidate_ne_nil
    (sent : (client.turn ⟨method, ruleRoute id, .obj payload, none⟩ backend).requests ≠ []) :
    (client.turn (lastCandidate id payload) later).requests ≠ [] := by
  rcases requests_turn_ne_nil_iff.mp sent with ⟨finite, url, located⟩
  by_cases whole : IsWholeRule payload
  · rw [lastCandidate_of_isWholeRule whole, requests_turn_ne_nil_iff]
    exact ⟨isFinite_creationFields finite, exists_address_rulesRoute located⟩
  · rw [lastCandidate_of_not_isWholeRule whole, requests_turn_ne_nil_iff]
    exact ⟨finite, url, located⟩

/-- Where the rule has an address of its own, the last candidate creates one from a whole payload
and from no other. -/
theorem isCreation_lastCandidate_iff
    (apart : client.address (ruleRoute id) ≠ client.address rulesRoute)
    (sent : (client.turn (lastCandidate id payload) backend).requests ≠ []) :
    client.IsCreation (client.turn (lastCandidate id payload) backend) ↔
      IsWholeRule payload := by
  by_cases whole : IsWholeRule payload
  · rw [lastCandidate_of_isWholeRule whole] at sent ⊢
    simp [isCreation_post_iff sent, whole]
  · rw [lastCandidate_of_not_isWholeRule whole] at sent ⊢
    simp [isCreation_post_iff sent, whole, apart]

end Client

end Candidates

/-! ## Updates -/

namespace Client

section Updates

variable {σ : Type} {client : Client σ} {id : Json} {payload : Json.Fields} {backend : σ}

/-- The last candidate is issued if the two before it hand over, and none is if the first is not. -/
theorem issued_updateCandidates
    (sent : (client.turn ⟨"patch", ruleRoute id, .obj payload, none⟩ backend).requests ≠ []) :
    let first := client.turn ⟨"patch", ruleRoute id, .obj payload, none⟩ backend
    let second := client.turn ⟨"post", ruleRoute id, .obj payload, none⟩ first.after
    let third := client.turn (lastCandidate id payload) second.after
    client.issued fallbackStatuses (updateCandidates id payload) backend =
      first :: if first.handsOver fallbackStatuses then
          second :: if second.handsOver fallbackStatuses then [third] else []
        else [] := by
  intro first second third
  have secondSent : second.requests ≠ [] :=
    requests_turn_ne_nil_iff.mpr (requests_turn_ne_nil_iff.mp sent)
  have thirdSent : third.requests ≠ [] := requests_lastCandidate_ne_nil sent
  rw [updateCandidates_eq, issued_cons_of_sent sent, issued_cons_of_sent secondSent,
    issued_cons_of_sent thirdSent]
  simp only [issued_nil, ite_self, first, second, third]

section Creation

variable {first second third : Turn σ}

theorem eq_two_of_isCreation {issued : List (Turn σ)} (short : issued.length ≤ 3)
    (notFirst : ∀ turn, issued[0]? = some turn → ¬client.IsCreation turn)
    (notSecond : ∀ turn, issued[1]? = some turn → ¬client.IsCreation turn) :
    ∀ index turn, issued[index]? = some turn → client.IsCreation turn → index = 2 := by
  intro index turn found creation
  rcases index with _ | _ | _ | index
  · exact absurd creation (notFirst turn found)
  · exact absurd creation (notSecond turn found)
  · rfl
  · rw [List.getElem?_eq_none (by omega)] at found
    cases found

theorem createsLast_nil : client.CreatesLast payload [] where
  creates := by simp
  third := by simp

theorem createsLast_singleton (notFirst : ¬client.IsCreation first) :
    client.CreatesLast payload [first] where
  creates := by simp [notFirst]
  third := eq_two_of_isCreation (by simp) (by simpa using notFirst) (by simp)

theorem createsLast_pair_iff (notFirst : ¬client.IsCreation first)
    (notSecond : ¬client.IsCreation second) (falls : first.fallsThrough fallbackStatuses = true) :
    client.CreatesLast payload [first, second] ↔
      (IsWholeRule payload → ¬second.fallsThrough fallbackStatuses = true) := by
  constructor
  · intro createsLast whole fallsSecond
    rcases createsLast.creates.mpr ⟨whole, first, second, [], rfl, falls, fallsSecond⟩ with
      ⟨turn, mem, creation⟩
    rcases List.mem_pair.mp mem with rfl | rfl
    · exact notFirst creation
    · exact notSecond creation
  · intro stays
    refine ⟨?_, eq_two_of_isCreation (by simp) (by simpa using notFirst) (by simpa using notSecond)⟩
    simp only [List.mem_pair, exists_eq_or_imp, exists_eq_left, notFirst, notSecond, or_false,
      false_iff]
    rintro ⟨whole, _, _, _, same, _, fallsSecond⟩
    cases same
    exact stays whole fallsSecond

theorem createsLast_triple (notFirst : ¬client.IsCreation first)
    (notSecond : ¬client.IsCreation second) (falls : first.fallsThrough fallbackStatuses = true)
    (fallsSecond : second.fallsThrough fallbackStatuses = true)
    (creation_iff : client.IsCreation third ↔ IsWholeRule payload) :
    client.CreatesLast payload [first, second, third] where
  creates := by simp [notFirst, notSecond, creation_iff, falls, fallsSecond]
  third := eq_two_of_isCreation (by simp) (by simpa using notFirst) (by simpa using notSecond)

end Creation

/-- Only the last candidate creates a rule, and if it is to, unless the route of the rule leads to
the collection or the second refusal cannot be read. -/
theorem createsLast_issued_iff :
    let first := client.turn ⟨"patch", ruleRoute id, .obj payload, none⟩ backend
    let second := client.turn ⟨"post", ruleRoute id, .obj payload, none⟩ first.after
    client.CreatesLast payload
        (client.issued fallbackStatuses (updateCandidates id payload) backend) ↔
      (first.fallsThrough fallbackStatuses = true → first.IsReadable →
        ¬(id.display = ['.'] ∧ client.address (ruleRoute id) = client.address rulesRoute) ∧
        (IsWholeRule payload → second.fallsThrough fallbackStatuses = true →
          second.IsReadable)) := by
  intro first second
  by_cases handsOver : first.handsOver fallbackStatuses = true
  swap
  · -- the first candidate is the only one that can be issued
    rw [iff_true_right (fun falls readable => absurd (handsOver_iff.mpr ⟨falls, readable⟩) handsOver)]
    by_cases sent : first.requests = []
    · simp only [updateCandidates_eq, issued_cons, first, sent, if_true]
      exact createsLast_nil
    · rw [issued_updateCandidates sent, if_neg handsOver]
      exact createsLast_singleton (not_isCreation_patch sent)
  have sent : first.requests ≠ [] := requests_ne_nil_of_handsOver handsOver
  have secondSent : second.requests ≠ [] :=
    requests_turn_ne_nil_iff.mpr (requests_turn_ne_nil_iff.mp sent)
  have notFirst : ¬client.IsCreation first := not_isCreation_patch sent
  have falls : first.fallsThrough fallbackStatuses = true := (handsOver_iff.mp handsOver).1
  have readable : first.IsReadable := (handsOver_iff.mp handsOver).2
  rw [imp_iff_right falls, imp_iff_right readable, issued_updateCandidates sent, if_pos handsOver]
  by_cases apart : client.address (ruleRoute id) = client.address rulesRoute
  · -- the second candidate creates a rule
    have dot : id.display = ['.'] := by
      by_contra notDot
      rcases requests_turn_ne_nil_iff.mp sent with ⟨_, url, located⟩
      exact address_ruleRoute_ne notDot located (apart ▸ located)
    simp only [dot, apart, and_self, not_true_eq_false, false_and, iff_false]
    intro createsLast
    have third := createsLast.third 1 second rfl ((isCreation_post_iff secondSent).mpr apart)
    cases third
  have notSecond : ¬client.IsCreation second := mt (isCreation_post_iff secondSent).mp apart
  simp only [apart, and_false, not_false_eq_true, true_and]
  by_cases handsOverSecond : second.handsOver fallbackStatuses = true
  · rcases handsOver_iff.mp handsOverSecond with ⟨fallsSecond, readableSecond⟩
    rw [if_pos handsOverSecond, iff_true_right (fun _ _ => readableSecond)]
    exact createsLast_triple notFirst notSecond falls fallsSecond
      (isCreation_lastCandidate_iff apart (requests_lastCandidate_ne_nil sent))
  · have unreadable : second.fallsThrough fallbackStatuses = true → ¬second.IsReadable :=
      fun fallsSecond readableSecond => handsOverSecond (handsOver_iff.mpr ⟨fallsSecond, readableSecond⟩)
    rw [if_neg handsOverSecond, createsLast_pair_iff notFirst notSecond falls]
    exact forall_congr' fun _ => forall_congr' fun fallsSecond => by simp [unreadable fallsSecond]

/-- What the backend receives says in which turns the candidates of an update are issued. -/
theorem eq_issued_of_issuesUpdate {session : Session σ} {issued : List (Turn σ)}
    (issues : client.IssuesUpdate id payload session issued (client.updateRule id payload session)) :
    issued = client.issued fallbackStatuses (updateCandidates id payload) session.backend := by
  have among : issued <+: client.turns (updateCandidates id payload) session.backend := by
    by_cases whole : IsWholeRule payload
    · rw [updateCandidates_of_isWholeRule whole]
      exact issues.whole whole
    · rw [updateCandidates_of_not_isWholeRule whole]
      exact issues.incomplete whole
  have same := issues.sent
  rw [updateRule, sent_resolve, List.append_cancel_left_eq] at same
  refine eq_of_flatMap_requests among (issued_begins _ _) ?_ ?_ same.symm
  · intro turn mem
    rcases issues.once turn mem with ⟨_, _, _, requests, _⟩
    exact requests ▸ List.cons_ne_nil _ _
  · intro turn mem
    rcases isSentOnce_of_mem_issued turn mem with ⟨_, _, _, requests, _⟩
    exact requests ▸ List.cons_ne_nil _ _

end Updates

/-- An update creates a rule only from a whole payload, as the last of three candidates, after both
candidates on the route of the rule are refused, exactly if the following holds wherever the first
is refused readably: the id is not a dot that leads to the collection, and if the payload is whole
then a second refusal can be read as well. -/
theorem issuesUpdate_iff {σ : Type} (client : Client σ) (id : Json) (payload : Json.Fields)
    (session : Session σ) :
    let first := client.turn ⟨"patch", ruleRoute id, .obj payload, none⟩ session.backend
    let second := client.turn ⟨"post", ruleRoute id, .obj payload, none⟩ first.after
    (∃ issued, client.IssuesUpdate id payload session issued
        (client.updateRule id payload session)) ↔
      (first.fallsThrough fallbackStatuses = true → first.IsReadable →
        ¬(id.display = ['.'] ∧ client.address (ruleRoute id) = client.address rulesRoute) ∧
        (IsWholeRule payload → second.fallsThrough fallbackStatuses = true →
          second.IsReadable)) := by
  intro first second
  refine Iff.trans ?_ createsLast_issued_iff
  constructor
  · rintro ⟨issued, issues⟩
    rw [← eq_issued_of_issuesUpdate issues]
    exact issues.toCreatesLast
  · intro createsLast
    exact ⟨_, {
      toCreatesLast := createsLast
      sent := sent_resolve
      once := isSentOnce_of_mem_issued
      whole := by
        intro whole
        rw [← updateCandidates_of_isWholeRule whole]
        exact issued_begins _ _
      incomplete := by
        intro incomplete
        rw [← updateCandidates_of_not_isWholeRule incomplete]
        exact issued_begins _ _ }⟩

/-- A backend that knows how to create rules and nothing else. -/
def creatingOnly : Client Unit where
  base := ⟨"https".toList, [], "api.test".toList, none, ['/'], none, none⟩
  headers := []
  answer request _ :=
    (.response (if request.method = "POST" ∧ request.url.path = "/automations".toList then
      ⟨200, [], []⟩ else ⟨405, [], []⟩), ())

/-- With a whole payload and an id that is a name, the rule is created after two refusals. -/
theorem issuesUpdate_welcome :
    let payload : Json.Fields := [("name", .str "Welcome"),
      ("trigger", .obj [("type", .str "lead_created")]), ("actions", .arr []),
      ("active", .bool true), ("owner", .str "Ada")]
    let result := creatingOnly.updateRule (.str "7") payload (.start ())
    result.2.sent.map (fun request => (request.method, String.ofList request.url.path)) =
        [("PATCH", "/automations/7"), ("POST", "/automations/7"), ("POST", "/automations")] ∧
      ∃ issued, creatingOnly.IssuesUpdate (.str "7") payload (.start ()) issued result := by
  intro payload result
  refine ⟨by decide +kernel, ?_⟩
  apply (issuesUpdate_iff creatingOnly (.str "7") payload (.start ())).mpr
  intro _ _
  refine ⟨fun dot => absurd dot.1 (by decide), fun _ _ => ?_⟩
  refine ⟨.response ⟨405, [], []⟩, by decide +kernel, ?_⟩
  rintro _ ⟨⟩
  exact ⟨.null, by decide +kernel⟩

/-- The id that is a lone dot leads to the collection, so that the second candidate creates a rule
from a payload that has nothing but a name. -/
theorem not_issuesUpdate_dot :
    let payload : Json.Fields := [("name", .str "Welcome")]
    let result := creatingOnly.updateRule (.str ".") payload (.start ())
    ¬IsWholeRule payload ∧
      result.2.sent.map (fun request => (request.method, String.ofList request.url.path,
          request.body)) =
        [("PATCH", "/automations", bodyOf (.obj payload)),
          ("POST", "/automations", bodyOf (.obj payload))] ∧
      ¬∃ issued, creatingOnly.IssuesUpdate (.str ".") payload (.start ()) issued result := by
  intro payload result
  refine ⟨mt isComplete_iff.mpr (by decide), by decide +kernel, ?_⟩
  rintro ⟨issued, issues⟩
  have first := eq_issued_of_issuesUpdate issues
  have sent : (creatingOnly.turn ⟨"patch", ruleRoute (.str "."), .obj payload, none⟩ ()).requests ≠
      [] := by decide +kernel
  rw [issued_updateCandidates sent, if_pos (by decide +kernel)] at first
  have third := issues.third 1 _ (by rw [first]; rfl)
    ((isCreation_post_iff (by decide +kernel)).mpr (by decide +kernel))
  cases third

end Client

end Rulebook
