import Mathlib
import Rulebook.Proofs.Http.Faults

/-!
# Candidates taking turns

Sending a candidate depends on a session only through the state of the backend: the requests go
behind those that were sent before, and the log stays as it is. A *turn* is what becomes of a
candidate: the reply in which its exchange ends, the requests that it took, and the state in which
it leaves the backend. Candidates take turns on one backend, which may answer each of them as it
likes in view of all requests before.
-/

namespace Rulebook

namespace Client

variable {σ : Type}

/-- What a client makes of the reply to a request: the exchange ends, or another request follows. -/
def heed (request : Request) : Reply → Except (Except Failure Reply) Request
  | .unreachable message name => .error (.ok (.unreachable message name))
  | .response response =>
      match receive request response with
      | .error outcome => .error outcome
      | .ok response =>
          match response.location? with
          | none => .error (.ok (.response response))
          | some location => redirect request response.status location

/-- What becomes of a request that follows a redirect when no more may follow. -/
def tooManyRedirects : Reply :=
  .unreachable "Exceeded maximum allowed redirects." "TooManyRedirects"

/-- One step of following redirects. -/
theorem follow_eq (client : Client σ) (left : Nat) (request : Request) (session : Session σ) :
    client.follow left request session =
      match heed request (client.exchange request session).1, left with
      | .error outcome, _ => (outcome, (client.exchange request session).2)
      | .ok _, 0 => (.ok tooManyRedirects, (client.exchange request session).2)
      | .ok next, left + 1 => client.follow left next (client.exchange request session).2 := by
  rcases client with ⟨base, headers, answer⟩
  -- The equation behind `unfold` splits every match of the body; computing the head does not.
  delta follow
  cases left <;> conv_lhs => whnf
  all_goals
    simp only [exchange]
    rcases answer request session.backend with ⟨reply, backend⟩
    cases reply with
    | unreachable message name => rfl
    | response response =>
        simp only [heed]
        cases receive request response with
        | error outcome => rfl
        | ok taken =>
            simp only
            cases taken.location? with
            | none => rfl
            | some location =>
                simp only
                cases redirect request taken.status location with
                | error outcome => rfl
                | ok next => rfl

theorem heed_isOffNetwork {request : Request} {reply : Reply} {outcome : Except Failure Reply}
    (ended : heed request reply = .error outcome) : IsOffNetwork outcome := by
  cases reply with
  | unreachable message name =>
      cases ended
      exact isOffNetwork_ok _
  | response response =>
      simp only [heed] at ended
      split at ended
      · next received =>
        cases ended
        exact receive_isOffNetwork received
      · split at ended
        · cases ended
          exact isOffNetwork_ok _
        · exact redirect_isOffNetwork ended

theorem follow_isOffNetwork (client : Client σ) (left : Nat) (request : Request)
    (session : Session σ) : IsOffNetwork (client.follow left request session).1 := by
  induction left generalizing request session with
  | zero =>
      rw [follow_eq]
      split
      · next heeded => exact heed_isOffNetwork heeded
      · exact isOffNetwork_ok _
      · next impossible => cases impossible
  | succ left ih =>
      rw [follow_eq]
      split
      · next heeded => exact heed_isOffNetwork heeded
      · next impossible => cases impossible
      · next same =>
        cases same
        exact ih _ _

/-- A session gives an exchange the state of the backend, and takes the requests. -/
theorem follow_session (client : Client σ) (left : Nat) (request : Request) (backend : σ)
    (sent : List Request) (log : List LogRecord) :
    client.follow left request ⟨backend, sent, log⟩ =
      ((client.follow left request (.start backend)).1,
        ⟨(client.follow left request (.start backend)).2.backend,
          sent ++ (client.follow left request (.start backend)).2.sent, log⟩) := by
  induction left generalizing request backend sent log with
  | zero =>
      rw [follow_eq, follow_eq client 0 request (.start backend)]
      simp only [exchange, Session.start, List.nil_append]
      cases heed request (client.answer request backend).1 <;> rfl
  | succ left ih =>
      rw [follow_eq, follow_eq client (left + 1) request (.start backend)]
      simp only [exchange, Session.start, List.nil_append]
      cases heed request (client.answer request backend).1 with
      | error outcome => rfl
      | ok next =>
          simp only
          rw [ih next _ (sent ++ [request]) log, ih next _ [request] []]
          simp

theorem location?_of_unpacked {packed taken : Response} (unpacked : packed.unpacked = .ok taken) :
    taken.location? = packed.location? := by
  simp only [Response.unpacked] at unpacked
  cases body : Coding.unpackAll _ packed.body with
  | error fault =>
      rw [body] at unpacked
      cases unpacked
  | ok bytes =>
      rw [body] at unpacked
      cases unpacked
      rfl

/-- Only a response that names another address is followed by another request. -/
theorem exists_location_of_heed {request next : Request} {reply : Reply}
    (redirected : heed request reply = .ok next) :
    ∃ response, reply = .response response ∧ response.location?.isSome = true := by
  cases reply with
  | unreachable message name => cases redirected
  | response response =>
      refine ⟨response, rfl, ?_⟩
      simp only [heed] at redirected
      split at redirected
      · cases redirected
      · next taken received =>
        have sameLocation : taken.location? = response.location? := by
          rw [receive] at received
          split at received
          · cases received
          · cases received
          · cases received
          · next unpacked _ =>
            cases received
            exact location?_of_unpacked unpacked
        split at redirected
        · cases redirected
        · next located =>
          rw [← sameLocation, located]
          rfl

/-- An exchange begins with its request and goes on only where the reply is a redirect. -/
theorem exists_sent_follow (client : Client σ) (left : Nat) (request : Request) (backend : σ) :
    ∃ followUps, (client.follow left request (.start backend)).2.sent = request :: followUps ∧
      (followUps ≠ [] → ∃ response, (client.answer request backend).1 = .response response ∧
        response.location?.isSome = true) := by
  rw [follow_eq]
  simp only [exchange, Session.start, List.nil_append]
  cases heeded : heed request (client.answer request backend).1 with
  | error outcome => exact ⟨[], rfl, by simp⟩
  | ok next =>
      cases left with
      | zero => exact ⟨[], rfl, by simp⟩
      | succ left =>
          simp only [follow_session client left next _ [request] []]
          exact ⟨_, rfl, fun _ => exists_location_of_heed heeded⟩

end Client

theorem Response.value_isOffNetwork (response : Response) : IsOffNetwork response.value := by
  have text_isOffNetwork : IsOffNetwork response.text := by
    rw [Response.text]
    split
    · exact isOffNetwork_error rfl
    · exact isOffNetwork_ok _
  rw [Response.value]
  split
  · exact isOffNetwork_ok _
  split
  · exact isOffNetwork_ok _
  · exact text_isOffNetwork

/-! ## Turns -/

/-- What becomes of a candidate that has its turn. -/
structure Turn (σ : Type) where
  /-- The candidate. -/
  candidate : Candidate
  /-- The state in which it finds the backend. -/
  before : σ
  /-- The reply in which its exchange ends, unless something beside the network fails. -/
  reply : Except Failure Reply
  /-- The requests that it takes, in order. -/
  requests : List Request
  /-- The state in which it leaves the backend. -/
  after : σ

namespace Turn

variable {σ : Type}

/-- What the turn comes to. -/
def outcome (turn : Turn σ) : Except Failure Json :=
  turn.reply.bind turn.candidate.outcome

/-- The backend answers with a status that says that there is no such route. -/
def fallsThrough (fallback : List Int) (turn : Turn σ) : Bool :=
  match turn.reply with
  | .ok (.response response) => !response.isSuccess && fallback.contains response.status
  | _ => false

/-- The exchange ends in a reply, and if this is a response then its body can be read. -/
def IsReadable (turn : Turn σ) : Prop :=
  ∃ reply, turn.reply = .ok reply ∧
    ∀ response, reply = .response response → ∃ value, response.value = .ok value

/-- What a turn is to come to: the value in the body of a response that says that the request
succeeded, and otherwise the failure that names the candidate, with the status and the value in
the body of a response, and with neither where there is none. -/
inductive Gives (turn : Turn σ) : Except Failure Json → Prop
  | success {response : Response} {value : Json} (replied : turn.reply = .ok (.response response))
      (succeeded : response.isSuccess = true) (read : response.value = .ok value) :
      Gives turn (.ok value)
  | refused {response : Response} {payload : Json}
      (replied : turn.reply = .ok (.response response)) (failed : response.isSuccess = false)
      (read : response.value = .ok payload) :
      Gives turn (.error (turn.candidate.refused response.status payload))
  | unanswered {message name : String} (silent : turn.reply = .ok (.unreachable message name)) :
      Gives turn (.error (turn.candidate.unanswered message name))

theorem gives_outcome {turn : Turn σ} (readable : turn.IsReadable) : turn.Gives turn.outcome := by
  rcases readable with ⟨reply, replied, readable⟩
  have outcome : turn.outcome = turn.candidate.outcome reply := by
    rw [Turn.outcome, replied]
    rfl
  rw [outcome]
  cases reply with
  | unreachable message name => exact .unanswered replied
  | response response =>
      rcases readable response rfl with ⟨value, read⟩
      simp only [Candidate.outcome, read]
      split
      · next succeeded => exact .success replied succeeded read
      · next failed => exact .refused replied (by simpa using failed) read

theorem Gives.statusOf?_ne_none {turn : Turn σ} {failure : Failure}
    (gives : turn.Gives (.error failure)) : Client.statusOf? failure ≠ none := by
  cases gives with
  | refused => simp [Candidate.refused, Candidate.failure, Client.statusOf?]
  | unanswered => simp [Candidate.unanswered, Candidate.failure, Client.statusOf?]

theorem fallsThrough_of_outcome {turn : Turn σ} (readable : turn.IsReadable) {failure : Failure}
    (failed : turn.outcome = .error failure) (fallback : List Int) :
    Client.fallsThrough fallback failure = turn.fallsThrough fallback := by
  have gives := turn.gives_outcome readable
  rw [failed] at gives
  cases gives with
  | refused replied notSuccess _ =>
      simp [fallsThrough, replied, notSuccess, Client.fallsThrough, Client.statusOf?,
        Candidate.refused, Candidate.failure]
  | unanswered silent =>
      simp [fallsThrough, silent, Client.fallsThrough, Client.statusOf?, Candidate.unanswered,
        Candidate.failure]

theorem exists_failure_of_fallsThrough {turn : Turn σ} (readable : turn.IsReadable)
    {fallback : List Int} (falls : turn.fallsThrough fallback = true) :
    ∃ failure, turn.outcome = .error failure := by
  have gives := turn.gives_outcome readable
  cases outcome : turn.outcome with
  | error failure => exact ⟨failure, rfl⟩
  | ok value =>
      rw [outcome] at gives
      cases gives with
      | success replied succeeded _ => simp [fallsThrough, replied, succeeded] at falls

end Turn

namespace Client

variable {σ : Type}

/-- The turn of a candidate that finds the backend in a state. -/
def turn (client : Client σ) (candidate : Candidate) (backend : σ) : Turn σ :=
  match client.compose candidate with
  | .error failure => ⟨candidate, backend, .error failure, [], backend⟩
  | .ok request =>
      let (reply, session) := client.follow redirectLimit request (.start backend)
      ⟨candidate, backend, reply, session.sent, session.backend⟩

theorem candidate_turn (client : Client σ) (candidate : Candidate) (backend : σ) :
    (client.turn candidate backend).candidate = candidate := by
  rw [turn]
  cases client.compose candidate <;> rfl

/-- The turns of candidates, each on the state in which the one before it leaves the backend. -/
def turns (client : Client σ) : List Candidate → σ → List (Turn σ)
  | [], _ => []
  | candidate :: later, backend =>
      client.turn candidate backend :: client.turns later (client.turn candidate backend).after

theorem map_candidate_turns (client : Client σ) (candidates : List Candidate) (backend : σ) :
    (client.turns candidates backend).map Turn.candidate = candidates := by
  induction candidates generalizing backend with
  | nil => rfl
  | cons candidate later ih => rw [turns, List.map_cons, candidate_turn, ih]

theorem exists_of_mem_turns {client : Client σ} {candidates : List Candidate} {backend : σ}
    {taken : Turn σ} (mem : taken ∈ client.turns candidates backend) :
    ∃ candidate found, taken = client.turn candidate found := by
  induction candidates generalizing backend with
  | nil => simp [turns] at mem
  | cons candidate later ih =>
      rw [turns, List.mem_cons] at mem
      rcases mem with same | further
      · exact ⟨candidate, backend, same⟩
      · exact ih further

/-- The turn takes one request for its candidate, and others only where a redirect is followed. -/
def IsSentOnce (client : Client σ) (turn : Turn σ) : Prop :=
  ∃ request followUps, client.compose turn.candidate = .ok request ∧
    turn.requests = request :: followUps ∧
    (followUps ≠ [] → ∃ response, (client.answer request turn.before).1 = .response response ∧
      response.location?.isSome = true)

end Client

/-- The session after a turn. -/
def Session.advance {σ : Type} (session : Session σ) (turn : Turn σ) : Session σ :=
  { session with backend := turn.after, sent := session.sent ++ turn.requests }

namespace Client

variable {σ : Type}

/-- Sending a candidate gives it a turn. -/
theorem request_eq (client : Client σ) (candidate : Candidate) (session : Session σ) :
    client.request candidate session =
      ((client.turn candidate session.backend).outcome,
        session.advance (client.turn candidate session.backend)) := by
  rcases session with ⟨backend, sent, log⟩
  rw [request, turn]
  cases client.compose candidate with
  | error failure => simp [Turn.outcome, Except.bind, Session.advance]
  | ok composed =>
      simp only [follow_session client redirectLimit composed backend sent log]
      cases client.follow redirectLimit composed (.start backend) with
      | mk reply after => cases reply <;> rfl

theorem isSentOnce_of_isReadable {client : Client σ} {candidate : Candidate} {backend : σ}
    (readable : (client.turn candidate backend).IsReadable) :
    client.IsSentOnce (client.turn candidate backend) := by
  rcases readable with ⟨reply, replied, _⟩
  rw [turn] at replied ⊢
  cases composed : client.compose candidate with
  | error failure =>
      rw [composed] at replied
      cases replied
  | ok request =>
      rcases client.exists_sent_follow redirectLimit request backend with
        ⟨followUps, sent, redirected⟩
      exact ⟨request, followUps, composed, sent, redirected⟩

theorem exists_failure_of_not_isReadable {client : Client σ} {candidate : Candidate} {backend : σ}
    (unreadable : ¬(client.turn candidate backend).IsReadable) :
    ∃ failure, (client.turn candidate backend).outcome = .error failure ∧
      statusOf? failure = none := by
  cases replied : (client.turn candidate backend).reply with
  | error failure =>
      refine ⟨failure, by rw [Turn.outcome, replied]; rfl, ?_⟩
      rw [turn] at replied
      cases composed : client.compose candidate with
      | error other =>
          rw [composed] at replied
          cases replied
          exact client.compose_isOffNetwork candidate failure composed
      | ok request =>
          rw [composed] at replied
          exact client.follow_isOffNetwork redirectLimit request _ failure replied
  | ok reply =>
      cases reply with
      | unreachable message name =>
          exact absurd ⟨_, replied, by simp⟩ unreadable
      | response response =>
          cases read : response.value with
          | ok value =>
              refine absurd ⟨_, replied, ?_⟩ unreadable
              rintro _ ⟨⟩
              exact ⟨value, read⟩
          | error failure =>
              have outcome : (client.turn candidate backend).outcome = .error failure := by
                simp [Turn.outcome, replied, Except.bind, Candidate.outcome, read]
              exact ⟨failure, outcome, response.value_isOffNetwork failure read⟩

end Client

end Rulebook
