import Mathlib
import Rulebook.Proofs.Http.Addresses
import Rulebook.Proofs.Http.Resolution

/-!
# Which candidates are issued

A candidate is issued if a request is sent for it. Whether or not the turns can be read, the issued
ones are a beginning of the turns that the candidates would take: each of them but the last hands
over to the next, and the run ends early with a candidate that cannot be composed. What the backend
receives determines which candidates are issued.
-/

namespace Rulebook

variable {σ : Type}

/-- The outcome of the turn lets the next candidate have its turn. -/
def Turn.handsOver (fallback : List Int) (turn : Turn σ) : Bool :=
  match turn.outcome with
  | .ok _ => false
  | .error failure => Client.fallsThrough fallback failure

namespace Client

/-- The turns in which candidates are issued, one after the other as long as they hand over. -/
def issued (client : Client σ) (fallback : List Int) : List Candidate → σ → List (Turn σ)
  | [], _ => []
  | candidate :: later, backend =>
      let turn := client.turn candidate backend
      if turn.requests = [] then []
      else if turn.handsOver fallback then turn :: client.issued fallback later turn.after
      else [turn]

section Turns

variable {client : Client σ} {fallback : List Int} {candidate : Candidate} {backend : σ}

@[simp]
theorem issued_nil : client.issued fallback [] backend = [] := rfl

theorem issued_cons {later : List Candidate} : client.issued fallback (candidate :: later) backend =
    if (client.turn candidate backend).requests = [] then []
    else if (client.turn candidate backend).handsOver fallback then
      client.turn candidate backend ::
        client.issued fallback later (client.turn candidate backend).after
    else [client.turn candidate backend] := rfl

theorem requests_ne_nil_iff : (client.turn candidate backend).requests ≠ [] ↔
    ∃ request, client.compose candidate = .ok request := by
  rw [turn]
  cases client.compose candidate with
  | error failure => simp
  | ok request =>
      rcases client.exists_sent_follow redirectLimit request backend with ⟨followUps, sent, _⟩
      simp [sent]

theorem isSentOnce_of_requests (sent : (client.turn candidate backend).requests ≠ []) :
    client.IsSentOnce (client.turn candidate backend) := by
  rcases requests_ne_nil_iff.mp sent with ⟨request, composed⟩
  rcases client.exists_sent_follow redirectLimit request backend with
    ⟨followUps, sentRequests, redirected⟩
  rw [turn, composed]
  exact ⟨request, followUps, composed, sentRequests, redirected⟩

/-- A turn hands over exactly if its status says so and its reply can be read. -/
theorem handsOver_iff : (client.turn candidate backend).handsOver fallback = true ↔
    (client.turn candidate backend).fallsThrough fallback = true ∧
      (client.turn candidate backend).IsReadable := by
  by_cases readable : (client.turn candidate backend).IsReadable
  · cases outcome : (client.turn candidate backend).outcome with
    | error failure =>
        simp [Turn.handsOver, outcome, readable,
          Turn.fallsThrough_of_outcome readable outcome]
    | ok value =>
        simp only [Turn.handsOver, outcome, Bool.false_eq_true, readable, and_true, false_iff]
        intro falls
        rcases Turn.exists_failure_of_fallsThrough readable falls with ⟨failure, failed⟩
        rw [outcome] at failed
        cases failed
  · rcases exists_failure_of_not_isReadable readable with ⟨failure, outcome, offNetwork⟩
    simp [Turn.handsOver, outcome, readable, fallsThrough, offNetwork]

theorem requests_ne_nil_of_handsOver
    (handsOver : (client.turn candidate backend).handsOver fallback = true) :
    (client.turn candidate backend).requests ≠ [] := by
  rcases isSentOnce_of_isReadable (handsOver_iff.mp handsOver).2 with ⟨_, _, _, sent, _⟩
  rw [sent]
  exact List.cons_ne_nil _ _

end Turns

section Run

variable {client : Client σ} {fallback : List Int}

theorem issued_begins (candidates : List Candidate) (backend : σ) :
    client.issued fallback candidates backend <+: client.turns candidates backend := by
  induction candidates generalizing backend with
  | nil => exact List.nil_prefix
  | cons candidate later ih =>
      rw [issued_cons, turns]
      split
      · exact List.nil_prefix
      split
      · exact List.cons_prefix_cons.mpr ⟨rfl, ih _⟩
      · exact List.cons_prefix_cons.mpr ⟨rfl, List.nil_prefix⟩

theorem issued_cons_of_sent {candidate : Candidate} {later : List Candidate} {backend : σ}
    (sent : (client.turn candidate backend).requests ≠ []) :
    client.issued fallback (candidate :: later) backend =
      client.turn candidate backend ::
        if (client.turn candidate backend).handsOver fallback then
          client.issued fallback later (client.turn candidate backend).after
        else [] := by
  rw [issued_cons, if_neg sent]
  split <;> rfl

theorem issued_ne_nil_iff {candidate : Candidate} {later : List Candidate} {backend : σ} :
    client.issued fallback (candidate :: later) backend ≠ [] ↔
      (client.turn candidate backend).requests ≠ [] := by
  constructor
  · intro issuedSome unsent
    rw [issued_cons, if_pos unsent] at issuedSome
    exact issuedSome rfl
  · intro sent
    rw [issued_cons_of_sent sent]
    exact List.cons_ne_nil _ _

theorem isSentOnce_of_mem_issued {candidates : List Candidate} {backend : σ} :
    ∀ turn ∈ client.issued fallback candidates backend, client.IsSentOnce turn := by
  induction candidates generalizing backend with
  | nil => simp
  | cons candidate later ih =>
      rw [issued_cons]
      split
      · simp
      next sent =>
      split
      · exact List.forall_mem_cons.mpr ⟨isSentOnce_of_requests sent, ih⟩
      · simpa using isSentOnce_of_requests sent

/-- Only a refusal with a fallback status is followed by another candidate. -/
theorem fallsThrough_of_mem_dropLast_issued {candidates : List Candidate} {backend : σ} :
    ∀ turn ∈ (client.issued fallback candidates backend).dropLast,
      turn.fallsThrough fallback = true := by
  induction candidates generalizing backend with
  | nil => simp
  | cons candidate later ih =>
      rw [issued_cons]
      split
      · simp
      split
      · next handsOver =>
        intro turn mem
        rcases List.eq_nil_or_concat' (client.issued fallback later
          (client.turn candidate backend).after) with none | ⟨front, last, some⟩
        · simp [none] at mem
        · rw [some, ← List.cons_append, List.dropLast_concat, List.mem_cons] at mem
          rcases mem with rfl | inFront
          · exact (handsOver_iff.mp handsOver).1
          · apply ih turn
            rw [some, List.dropLast_concat]
            exact inFront
      · simp

/-- If the request of each candidate bears its mark, then the requests of the issued candidates bear
the first few of the marks, in order. -/
theorem exists_marked {Mark : Type} {bears : Request → Mark → Prop} {candidates : List Candidate}
    {marks : List Mark} (fit : List.Forall₂ (fun candidate mark => ∀ request,
      client.compose candidate = .ok request → bears request mark) candidates marks) (backend : σ) :
    ∃ borne, borne <+: marks ∧ List.Forall₂ (fun turn mark => ∃ request followUps,
      turn.requests = request :: followUps ∧ bears request mark)
        (client.issued fallback candidates backend) borne := by
  induction fit generalizing backend with
  | nil => exact ⟨[], List.nil_prefix, .nil⟩
  | @cons candidate mark later more here _ ih =>
      rcases ih (client.turn candidate backend).after with ⟨borne, begins, bear⟩
      rw [issued_cons]
      split
      · exact ⟨[], List.nil_prefix, .nil⟩
      next sent =>
      rcases isSentOnce_of_requests sent with ⟨request, followUps, composed, requests, _⟩
      rw [candidate_turn] at composed
      have first := here request composed
      split
      · exact ⟨mark :: borne, List.cons_prefix_cons.mpr ⟨rfl, begins⟩,
          .cons ⟨request, followUps, requests, first⟩ bear⟩
      · exact ⟨[mark], List.cons_prefix_cons.mpr ⟨rfl, List.nil_prefix⟩,
          .cons ⟨request, followUps, requests, first⟩ .nil⟩

/-- A candidate is issued, and the later ones after it if it hands over. -/
theorem flatMap_issued_cons {candidate : Candidate} {later : List Candidate} {backend : σ} :
    (client.issued fallback (candidate :: later) backend).flatMap Turn.requests =
      (client.turn candidate backend).requests ++
        if (client.turn candidate backend).handsOver fallback then
          (client.issued fallback later (client.turn candidate backend).after).flatMap
            Turn.requests
        else [] := by
  rw [issued_cons]
  split
  · next unsent =>
    have stays : ¬(client.turn candidate backend).handsOver fallback = true :=
      fun handsOver => requests_ne_nil_of_handsOver handsOver unsent
    simp [unsent, stays]
  split
  · simp
  · simp

/-- One step, whatever it writes to the log: a turn that hands over leaves the rest to the next
candidate if there is one, and any other turn ends the run. -/
theorem resolveFrom_step (total attempt : Nat) (first : Candidate) (later : List Candidate)
    (session : Session σ) :
    let turn := client.turn first session.backend
    ∃ log, client.resolveFrom fallback total attempt first later session =
      match turn.handsOver fallback, later with
      | true, next :: more => client.resolveFrom fallback total (attempt + 1) next more
          { session.advance turn with log := log }
      | _, _ => (turn.outcome, { session.advance turn with log := log }) := by
  intro turn
  rw [resolveFrom_eq, Turn.handsOver]
  cases turn.outcome with
  | ok value => exact ⟨session.log, rfl⟩
  | error failure =>
      simp only
      split
      · next offNetwork =>
        have stays : fallsThrough fallback failure = false := by
          rw [fallsThrough, Option.isNone_iff_eq_none.mp offNetwork]
        rw [stays]
        exact ⟨session.log, rfl⟩
      split
      · next falls =>
        rw [falls]
        cases later with
        | nil => exact ⟨_, rfl⟩
        | cons next more => exact ⟨_, rfl⟩
      · next stays =>
        rw [Bool.not_eq_true] at stays
        rw [stays]
        exact ⟨_, rfl⟩

theorem sent_resolveFrom {total attempt : Nat} {first : Candidate} {later : List Candidate}
    {session : Session σ} :
    (client.resolveFrom fallback total attempt first later session).2.sent =
      session.sent ++
        (client.issued fallback (first :: later) session.backend).flatMap Turn.requests := by
  induction later generalizing attempt first session with
  | nil =>
      rcases resolveFrom_step total attempt first [] session with ⟨log, step⟩
      rw [step, flatMap_issued_cons]
      cases (client.turn first session.backend).handsOver fallback <;>
        simp [Session.advance]
  | cons next more ih =>
      rcases resolveFrom_step total attempt first (next :: more) session with ⟨log, step⟩
      rw [step, flatMap_issued_cons]
      cases (client.turn first session.backend).handsOver fallback with
      | false => simp [Session.advance]
      | true => simp [ih, Session.advance]

/-- The backend receives the requests of the candidates that are issued, and no others. -/
theorem sent_resolve {candidates : List Candidate} {session : Session σ} :
    (client.resolve fallback candidates session).2.sent =
      session.sent ++
        (client.issued fallback candidates session.backend).flatMap Turn.requests := by
  cases candidates with
  | nil => simp [resolve]
  | cons first later => exact sent_resolveFrom

/-- The requests say which of the turns were taken, since each of these takes some. -/
theorem eq_of_flatMap_requests {turns left right : List (Turn σ)} (leftPrefix : left <+: turns)
    (rightPrefix : right <+: turns) (leftSent : ∀ turn ∈ left, turn.requests ≠ [])
    (rightSent : ∀ turn ∈ right, turn.requests ≠ [])
    (same : left.flatMap Turn.requests = right.flatMap Turn.requests) : left = right := by
  have none_of_flatMap : ∀ more : List (Turn σ), (∀ turn ∈ more, turn.requests ≠ []) →
      more.flatMap Turn.requests = [] → more = [] := by
    intro more sent unsent
    rw [List.flatMap_eq_nil_iff] at unsent
    exact List.eq_nil_iff_forall_not_mem.mpr fun turn mem => sent turn mem (unsent turn mem)
  rcases List.prefix_or_prefix_of_prefix leftPrefix rightPrefix with ⟨more, rfl⟩ | ⟨more, rfl⟩
  · rw [List.flatMap_append, List.self_eq_append_right] at same
    rw [none_of_flatMap more (fun turn mem => rightSent turn (by simp [mem])) same,
      List.append_nil]
  · rw [List.flatMap_append, List.append_right_eq_self] at same
    rw [none_of_flatMap more (fun turn mem => leftSent turn (by simp [mem])) same,
      List.append_nil]

end Run

end Client

end Rulebook
