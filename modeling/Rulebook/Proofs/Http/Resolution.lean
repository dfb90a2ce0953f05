import Mathlib
import Rulebook.Proofs.Http.Turns

/-!
# Which candidate decides

Candidates take turns until one does not fall through, or there is none left; this turn decides.
Its outcome is the outcome of the whole, what the backend received are the requests of the turns
so far, and the log says which turns fell through and, if the outcome is a failure, why it ended.

All this holds exactly if every turn up to the deciding one can be read. The body of a refusal is
read before its status is looked at, so a refusal in a character set that cannot be read ends the
whole with a failure of its own, although its status says that the next candidate has its turn.
-/

namespace Rulebook

namespace Turn

variable {σ : Type}

/-- The status with which the turn was answered. -/
def status (turn : Turn σ) : Json :=
  match turn.reply with
  | .ok (.response response) => .int response.status
  | _ => .null

/-- The record of a turn that falls through, being number `attempt` of `total`. -/
def fallRecord (turn : Turn σ) (attempt total : Nat) : LogRecord :=
  ⟨.debug, turn.candidate.describe ++ " -> HTTP ".toList ++ turn.status.display ++
    ", trying next candidate (".toList ++ Text.decimal attempt ++ '/' :: Text.decimal total ++
    [')']⟩

/-- The records of turns that fall through, the first of them being number `attempt`. -/
def fallRecords (total attempt : Nat) (falls : List (Turn σ)) : List LogRecord :=
  (falls.zipIdx attempt).map fun (turn, number) => turn.fallRecord number total

/-- The last record of a failure: its turn was the last of all, or it did not fall through. -/
def closingRecords (fallback : List Int) (total : Nat) (turn : Turn σ) :
    Except Failure Json → List LogRecord
  | .ok _ => []
  | .error failure =>
      [⟨.warning, if turn.fallsThrough fallback then Client.exhaustedNote total failure
        else Client.abortNote turn.candidate failure⟩]

end Turn

/-- Of turns one after the other, one decides: those before it fall through, and it does not, or it
is the last one. -/
structure Turn.Decides {σ : Type} (fallback : List Int) (turns before : List (Turn σ))
    (turn : Turn σ) : Prop where
  /-- The turn stands behind those before it, and is the last one if it falls through. -/
  split : ∃ after, turns = before ++ turn :: after ∧
    (turn.fallsThrough fallback = true → after = [])
  /-- The turns before it fall through. -/
  fell : ∀ earlier ∈ before, earlier.fallsThrough fallback = true

theorem Turn.exists_decides {σ : Type} (fallback : List Int) {turns : List (Turn σ)}
    (filled : turns ≠ []) : ∃ before turn, Turn.Decides fallback turns before turn := by
  induction turns with
  | nil => exact absurd rfl filled
  | cons turn rest ih =>
      by_cases decides : turn.fallsThrough fallback = true → rest = []
      · exact ⟨[], turn, ⟨rest, rfl, decides⟩, by simp⟩
      · push Not at decides
        rcases ih decides.2 with ⟨before, decider, ⟨after, split, last⟩, fell⟩
        exact ⟨turn :: before, decider, ⟨after, by rw [split]; rfl, last⟩,
          List.forall_mem_cons.mpr ⟨decides.1, fell⟩⟩

/-- The deciding turn, after the turns that fell through before it, settles what candidates come
to: the outcome, what the backend received, and the log. -/
structure Client.Settles {σ : Type} (client : Client σ) (fallback : List Int) (total : Nat)
    (before : List (Turn σ)) (turn : Turn σ) (session : Session σ)
    (result : Except Failure Json × Session σ) : Prop where
  /-- The outcome is that of the deciding turn. -/
  outcome : turn.Gives result.1
  /-- Every turn takes one request, apart from redirects. -/
  once : ∀ taken ∈ before ++ [turn], client.IsSentOnce taken
  /-- The backend received the requests of the turns, in order, and no others. -/
  sent : result.2.sent = session.sent ++ (before ++ [turn]).flatMap Turn.requests
  /-- The backend is left as the deciding turn leaves it. -/
  backend : result.2.backend = turn.after
  /-- There is one record for every turn that falls through, and a last one for a failure. -/
  log : result.2.log = session.log ++
    Turn.fallRecords total 1 ((before ++ [turn]).filter (·.fallsThrough fallback)) ++
    turn.closingRecords fallback total result.1

namespace Client

variable {σ : Type} {client : Client σ} {fallback : List Int} {total attempt : Nat}
  {first : Candidate} {later : List Candidate} {session : Session σ}

theorem fallNote_eq {turn : Turn σ} (readable : turn.IsReadable) {failure : Failure}
    (failed : turn.outcome = .error failure) :
    (⟨.debug, fallNote turn.candidate failure attempt total⟩ : LogRecord) =
      turn.fallRecord attempt total := by
  have gives := turn.gives_outcome readable
  rw [failed] at gives
  have status : statusOf? failure = some turn.status := by
    cases gives with
    | refused replied _ _ =>
        simp [statusOf?, Candidate.refused, Candidate.failure, Turn.status, replied]
    | unanswered silent =>
        simp [statusOf?, Candidate.unanswered, Candidate.failure, Turn.status, silent]
  rw [fallNote, status]
  rfl

/-- One step, read off what the turn of the first candidate comes to. -/
theorem resolveFrom_eq (client : Client σ) (fallback : List Int) (total attempt : Nat)
    (first : Candidate) (later : List Candidate) (session : Session σ) :
    let turn := client.turn first session.backend
    let advanced := session.advance turn
    client.resolveFrom fallback total attempt first later session =
      match turn.outcome with
      | .ok value => (.ok value, advanced)
      | .error failure =>
          if (statusOf? failure).isNone then (.error failure, advanced)
          else if fallsThrough fallback failure then
            let noted := advanced.record .debug (fallNote first failure attempt total)
            match later with
            | [] => (.error failure, noted.record .warning (exhaustedNote total failure))
            | next :: more => client.resolveFrom fallback total (attempt + 1) next more noted
          else (.error failure, advanced.record .warning (abortNote first failure)) := by
  intro turn advanced
  delta resolveFrom
  cases later <;> conv_lhs => whnf
  all_goals
    rw [request_eq]
    cases turn.outcome <;> rfl

/-- One step: a turn that can be read decides, or hands over to the next candidate. -/
theorem resolveFrom_of_isReadable (readable : (client.turn first session.backend).IsReadable) :
    client.resolveFrom fallback total attempt first later session =
      let turn := client.turn first session.backend
      let advanced := session.advance turn
      let closing := turn.closingRecords fallback total turn.outcome
      if turn.fallsThrough fallback then
        let noted := advanced.log ++ [turn.fallRecord attempt total]
        match later with
        | [] => (turn.outcome, { advanced with log := noted ++ closing })
        | next :: later =>
            client.resolveFrom fallback total (attempt + 1) next later { advanced with log := noted }
      else (turn.outcome, { advanced with log := advanced.log ++ closing }) := by
  rw [resolveFrom_eq]
  have candidate := client.candidate_turn first session.backend
  generalize client.turn first session.backend = turn at readable candidate ⊢
  subst candidate
  have gives := turn.gives_outcome readable
  cases outcome : turn.outcome with
  | ok value =>
      have stays : turn.fallsThrough fallback = false := by
        rw [← Bool.not_eq_true]
        intro falls
        rcases turn.exists_failure_of_fallsThrough readable falls with ⟨failure, failed⟩
        rw [outcome] at failed
        cases failed
      simp [stays, outcome, Turn.closingRecords]
  | error failure =>
      rw [outcome] at gives
      have onNetwork : (statusOf? failure).isNone = false := by
        simpa [Option.isSome_iff_ne_none] using gives.statusOf?_ne_none
      simp only [onNetwork, Bool.false_eq_true, if_false, outcome, Session.record,
        turn.fallsThrough_of_outcome readable outcome, fallNote_eq readable outcome,
        Turn.closingRecords]
      by_cases falls : turn.fallsThrough fallback = true
      · cases later with
        | nil => simp only [falls, if_true]
        | cons next later => simp only [falls, if_true]
      · simp only [falls, Bool.false_eq_true, if_false]

theorem resolveFrom_of_not_isReadable
    (unreadable : ¬(client.turn first session.backend).IsReadable) :
    ∃ failure, (client.resolveFrom fallback total attempt first later session).1 =
      .error failure ∧ statusOf? failure = none := by
  rcases exists_failure_of_not_isReadable unreadable with ⟨failure, outcome, offNetwork⟩
  refine ⟨failure, ?_, offNetwork⟩
  simp [resolveFrom_eq, outcome, offNetwork]

/-- From a turn that falls through on, the turns are those of the later candidates. -/
theorem decides_of_cons {before : List (Turn σ)} {head turn : Turn σ} {backend : σ}
    (decides : Turn.Decides fallback (client.turns (first :: later) backend) (head :: before)
      turn) :
    head = client.turn first backend ∧ head.fallsThrough fallback = true ∧
      ∃ next more, later = next :: more ∧
        Turn.Decides fallback (client.turns (next :: more) head.after) before turn := by
  rcases decides with ⟨⟨after, split, last⟩, fell⟩
  rw [List.forall_mem_cons] at fell
  rw [turns, List.cons_append, List.cons.injEq] at split
  rcases split with ⟨rfl, splitLater⟩
  refine ⟨rfl, fell.1, ?_⟩
  cases later with
  | nil => simp [turns] at splitLater
  | cons next more => exact ⟨next, more, rfl, ⟨after, splitLater, last⟩, fell.2⟩

/-- If the turns up to the deciding one can be read, the run takes these turns and ends with the
outcome of the deciding one. -/
theorem resolveFrom_of_decides {before : List (Turn σ)} {turn : Turn σ}
    (decides : Turn.Decides fallback (client.turns (first :: later) session.backend) before turn)
    (readable : ∀ taken ∈ before ++ [turn], taken.IsReadable) :
    client.resolveFrom fallback total attempt first later session =
      (turn.outcome, {
        backend := turn.after
        sent := session.sent ++ (before ++ [turn]).flatMap Turn.requests
        log := session.log ++
          Turn.fallRecords total attempt ((before ++ [turn]).filter (·.fallsThrough fallback)) ++
          turn.closingRecords fallback total turn.outcome }) := by
  induction before generalizing attempt first later session with
  | nil =>
      rcases decides with ⟨⟨after, split, last⟩, _⟩
      rw [turns, List.nil_append, List.cons.injEq] at split
      rcases split with ⟨rfl, splitLater⟩
      rw [resolveFrom_of_isReadable (readable _ (by simp))]
      by_cases falls : (client.turn first session.backend).fallsThrough fallback = true
      · have noneLeft : later = [] := by
          rw [last falls] at splitLater
          cases later with
          | nil => rfl
          | cons next more => cases splitLater
        subst noneLeft
        simp [falls, Session.advance, Turn.fallRecords]
      · simp [falls, Session.advance, Turn.fallRecords]
  | cons head before ih =>
      rcases decides_of_cons decides with ⟨rfl, falls, next, more, rfl, decidesLater⟩
      rw [List.cons_append, List.forall_mem_cons] at readable
      rw [resolveFrom_of_isReadable readable.1]
      simp only [falls, if_true]
      rw [ih decidesLater readable.2]
      simp [falls, Session.advance, Turn.fallRecords]

theorem exists_failure_of_decides {before : List (Turn σ)} {turn : Turn σ}
    (decides : Turn.Decides fallback (client.turns (first :: later) session.backend) before turn)
    (unreadable : ¬∀ taken ∈ before ++ [turn], taken.IsReadable) :
    ∃ failure, (client.resolveFrom fallback total attempt first later session).1 =
      .error failure ∧ statusOf? failure = none := by
  induction before generalizing attempt first later session with
  | nil =>
      rcases decides with ⟨⟨after, split, _⟩, _⟩
      rw [turns, List.nil_append, List.cons.injEq] at split
      rcases split with ⟨rfl, _⟩
      exact resolveFrom_of_not_isReadable (by simpa using unreadable)
  | cons head before ih =>
      rcases decides_of_cons decides with ⟨rfl, falls, next, more, rfl, decidesLater⟩
      by_cases readable : (client.turn first session.backend).IsReadable
      · have unreadableLater : ¬∀ taken ∈ before ++ [turn], taken.IsReadable := by
          intro readableLater
          exact unreadable (List.forall_mem_cons.mpr ⟨readable, readableLater⟩)
        rw [resolveFrom_of_isReadable readable]
        simp only [falls, if_true]
        exact ih decidesLater unreadableLater
      · exact resolveFrom_of_not_isReadable readable

/-- There is a deciding turn, and it settles what candidates come to exactly if all turns up to it
can be read. -/
theorem settles_iff (client : Client σ) (fallback : List Int) (first : Candidate)
    (later : List Candidate) (session : Session σ) :
    (∃ before turn,
      Turn.Decides fallback (client.turns (first :: later) session.backend) before turn) ∧
    ∀ before turn,
      Turn.Decides fallback (client.turns (first :: later) session.backend) before turn →
      (client.Settles fallback (first :: later).length before turn session
          (client.resolve fallback (first :: later) session) ↔
        ∀ taken ∈ before ++ [turn], taken.IsReadable) := by
  constructor
  · apply Turn.exists_decides
    rw [turns]
    exact List.cons_ne_nil _ _
  · intro before turn decides
    constructor
    · intro settles
      by_contra unreadable
      rcases exists_failure_of_decides decides unreadable with ⟨failure, failed, offNetwork⟩
      have gives := settles.outcome
      rw [resolve, failed] at gives
      exact gives.statusOf?_ne_none offNetwork
    · intro readable
      rw [resolve, resolveFrom_of_decides decides readable]
      exact {
        outcome := turn.gives_outcome (readable turn (by simp))
        once := by
          intro taken mem
          have among : taken ∈ client.turns (first :: later) session.backend := by
            rcases decides with ⟨⟨after, split, _⟩, _⟩
            rw [split, List.append_cons]
            exact List.mem_append_left after mem
          rcases exists_of_mem_turns among with ⟨candidate, backend, rfl⟩
          exact isSentOnce_of_isReadable (readable _ mem)
        sent := rfl
        backend := rfl
        log := rfl }

/-- A backend that refuses one path with a text in a character set, and serves all others. -/
def refusing (charset : String) : Client Unit where
  base := ⟨"https".toList, [], "api.test".toList, none, ['/'], none, none⟩
  headers := []
  answer request _ :=
    (.response (if request.url.path = "/x".toList then
      ⟨404, [("content-type", "text/plain; charset=" ++ charset)], [0x68, 0, 0x69, 0]⟩
    else ⟨200, [], bodyOf (.int 1)⟩), ())

/-- A backend without a state is found the same by both candidates. -/
theorem turns_stateless (client : Client Unit) (first second : Candidate) :
    client.turns [first, second] () = [client.turn first ()] ++ client.turn second () :: [] :=
  rfl

/-- A refusal that can be read hands over to the next candidate, which serves the value 1. -/
theorem settles_refusing :
    let client := refusing "utf-8"
    let refused : Candidate := ⟨"GET", "/x", .null, none⟩
    let served : Candidate := ⟨"GET", "/y", .null, none⟩
    client.Settles fallbackStatuses 2 [client.turn refused ()] (client.turn served ()) (.start ())
      (client.resolve fallbackStatuses [refused, served] (.start ())) := by
  have replies :
      ((refusing "utf-8").turn ⟨"GET", "/x", .null, none⟩ ()).reply = .ok (.response
        ⟨404, [("content-type", "text/plain; charset=utf-8")], [0x68, 0, 0x69, 0]⟩) ∧
      ((refusing "utf-8").turn ⟨"GET", "/y", .null, none⟩ ()).reply =
        .ok (.response ⟨200, [], bodyOf (.int 1)⟩) := by
    decide +kernel
  have falls : ((refusing "utf-8").turn ⟨"GET", "/x", .null, none⟩ ()).fallsThrough
      fallbackStatuses = true := by
    rw [Turn.fallsThrough, replies.1]
    rfl
  refine ((settles_iff (refusing "utf-8") fallbackStatuses _ [_] (.start ())).2 _ _
    ⟨⟨[], turns_stateless .., fun _ => rfl⟩, by simpa using falls⟩).mpr ?_
  intro taken mem
  rw [List.cons_append, List.nil_append, List.mem_pair] at mem
  rcases mem with rfl | rfl
  · refine ⟨_, replies.1, ?_⟩
    rintro _ ⟨⟩
    exact ⟨.str "h\x00i\x00", by decide +kernel⟩
  · refine ⟨_, replies.2, ?_⟩
    rintro _ ⟨⟩
    exact ⟨.int 1, by decide +kernel⟩

/-- The refusal says that the next candidate has its turn, which would serve the value 1, but the
whole ends with the refusal, because its text cannot be read. -/
theorem not_settles_refusing :
    let client := refusing "utf-32"
    let refused : Candidate := ⟨"GET", "/x", .null, none⟩
    let served : Candidate := ⟨"GET", "/y", .null, none⟩
    let result := client.resolve fallbackStatuses [refused, served] (.start ())
    let first := client.turn refused ()
    let second := client.turn served ()
    Turn.Decides fallbackStatuses (client.turns [refused, served] ()) [first] second ∧
      second.outcome = .ok (.int 1) ∧ result.1 = .error (.unreadableBody (.noMark 32)) ∧
      result.2.sent.length = 1 ∧
      ¬client.Settles fallbackStatuses 2 [first] second (.start ()) result := by
  have falls : ((refusing "utf-32").turn ⟨"GET", "/x", .null, none⟩ ()).fallsThrough
      fallbackStatuses = true ∧
      ((refusing "utf-32").turn ⟨"GET", "/y", .null, none⟩ ()).outcome = .ok (.int 1) := by
    decide +kernel
  have ended : ((refusing "utf-32").resolve fallbackStatuses
        [⟨"GET", "/x", .null, none⟩, ⟨"GET", "/y", .null, none⟩] (.start ())).1 =
        .error (.unreadableBody (.noMark 32)) ∧
      ((refusing "utf-32").resolve fallbackStatuses
        [⟨"GET", "/x", .null, none⟩, ⟨"GET", "/y", .null, none⟩] (.start ())).2.sent.length = 1 := by
    decide +kernel
  refine ⟨⟨⟨[], turns_stateless .., fun _ => rfl⟩, by simpa using falls.1⟩, falls.2, ended.1, ended.2, ?_⟩
  intro settles
  have gives := settles.outcome
  rw [ended.1] at gives
  exact gives.statusOf?_ne_none rfl

end Client

end Rulebook
