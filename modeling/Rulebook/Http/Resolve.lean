import Rulebook.Http.Client

/-!
# Resolving candidates

The routes of backends differ, so one operation is an ordered list of candidates. `Client.request`
sends one candidate and turns everything but success into a network failure that names it.
`Client.resolve` sends candidates in order until one is not refused with a status that says that
the route does not exist; its outcome is the outcome of that candidate, or of the last one when all
fall through. Every step leaves a record in the log.
-/

namespace Rulebook

/-- The statuses that say that a route does not exist: not found, method not allowed, and not
implemented. -/
def fallbackStatuses : List Int := [404, 405, 501]

namespace Candidate

/-- The network failure that names a candidate. -/
def failure (candidate : Candidate) (message : List Char) (status payload : Json) : Failure :=
  .network (String.ofList message) (.str (String.ofList candidate.verb)) (.str candidate.url)
    status payload

/-- The message of a refusal: what the backend says if it says something, otherwise the status. -/
def refusalMessage (candidate : Candidate) (status : Int) (payload : Json) : List Char :=
  let standard := candidate.describe ++ " failed with HTTP ".toList ++ Text.signedDecimal status
  match (payload.field "message").orElse (payload.field "error") with
  | .str message => if (Text.trim message.toList).isEmpty then standard else message.toList
  | _ => standard

/-- The failure of a candidate that the backend refuses with a status and a body. -/
def refused (candidate : Candidate) (status : Int) (payload : Json) : Failure :=
  candidate.failure (candidate.refusalMessage status payload) (.int status) payload

/-- The failure of a candidate to which no response came. -/
def unanswered (candidate : Candidate) (message name : String) : Failure :=
  candidate.failure (candidate.describe ++ " failed: ".toList ++
    (if message.isEmpty then name else message).toList) .null .null

/-- What a reply makes of a candidate: the value of a success, or a failure. -/
def outcome (candidate : Candidate) : Reply → Except Failure Json
  | .unreachable message name => .error (candidate.unanswered message name)
  | .response response =>
      match response.value with
      | .error failure => .error failure
      | .ok value =>
          if response.isSuccess then .ok value
          else .error (candidate.refused response.status value)

end Candidate

namespace Client

variable {σ : Type}

/-- Sends one candidate, follows its redirects and judges the last reply. -/
def request (client : Client σ) (candidate : Candidate) (session : Session σ) :
    Except Failure Json × Session σ :=
  match client.compose candidate with
  | .error failure => (.error failure, session)
  | .ok request =>
      match client.follow redirectLimit request session with
      | (.error failure, session) => (.error failure, session)
      | (.ok reply, session) => (candidate.outcome reply, session)

/-- The status of a network failure; `null` where there was no response. -/
def statusOf? : Failure → Option Json
  | .network _ _ _ status _ => some status
  | _ => none

/-- The failure lets the next candidate have its turn. -/
def fallsThrough (fallback : List Int) (failure : Failure) : Bool :=
  match statusOf? failure with
  | some (.int status) => fallback.contains status
  | _ => false

/-- The record of a candidate that fell through. -/
def fallNote (candidate : Candidate) (failure : Failure) (attempt total : Nat) : List Char :=
  candidate.describe ++ " -> HTTP ".toList ++ ((statusOf? failure).getD .null).display ++
    ", trying next candidate (".toList ++ Text.decimal attempt ++ '/' :: Text.decimal total ++ [')']

/-- The record of a failure that ends the resolution. -/
def abortNote (candidate : Candidate) (failure : Failure) : List Char :=
  candidate.describe ++ " aborted: ".toList ++ failure.message

/-- The record that no candidate is left. -/
def exhaustedNote (total : Nat) (failure : Failure) : List Char :=
  "All ".toList ++ Text.decimal total ++ " candidates fell through: ".toList ++ failure.message

/-- Sends the candidates from number `attempt` of `total` on, until one does not fall through. -/
def resolveFrom (client : Client σ) (fallback : List Int) (total : Nat) :
    (attempt : Nat) → Candidate → List Candidate → Session σ →
      Except Failure Json × Session σ
  | attempt, candidate, later, session =>
      match client.request candidate session with
      | (.ok value, session) => (.ok value, session)
      | (.error failure, session) =>
          if (statusOf? failure).isNone then (.error failure, session)
          else if fallsThrough fallback failure then
            let session := session.record .debug (fallNote candidate failure attempt total)
            match later with
            | [] => (.error failure, session.record .warning (exhaustedNote total failure))
            | next :: later => client.resolveFrom fallback total (attempt + 1) next later session
          else (.error failure, session.record .warning (abortNote candidate failure))
termination_by structural _ _ later => later

/-- Sends candidates in order until one does not fall through. -/
def resolve (client : Client σ) (fallback : List Int) (candidates : List Candidate)
    (session : Session σ) : Except Failure Json × Session σ :=
  match candidates with
  | [] => (.error .noCandidates, session)
  | first :: later => client.resolveFrom fallback candidates.length 1 first later session

end Client

end Rulebook
