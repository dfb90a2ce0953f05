import Rulebook.Http.Message
import Rulebook.Log
import Rulebook.Settings.Basic
import Rulebook.Text.Base64
import Rulebook.Text.Case

/-!
# The client

A backend is any state machine that answers requests. A session couples the state of the backend
with the requests that it received and the log of the client. A client puts candidates below its
base address, adds its headers, sends them, and follows redirects up to a limit.
-/

namespace Rulebook

/-- A request attempt: a method, an address below the base address or one of its own, a body, and
parameters that replace the query. -/
structure Candidate where
  method : String
  url : String
  /-- The body; `null` for none. -/
  body : Json := .null
  params : Option Json.Fields := none
deriving DecidableEq, Repr, Inhabited

/-- The method as it is sent. -/
def Candidate.verb (candidate : Candidate) : List Char :=
  Text.upper candidate.method.toList

/-- How messages name a candidate. -/
def Candidate.describe (candidate : Candidate) : List Char :=
  candidate.verb ++ ' ' :: candidate.url.toList

/-- A backend in its state, with what has been sent to it and what has been noted. -/
structure Session (σ : Type) where
  backend : σ
  sent : List Request
  log : List LogRecord

namespace Session

variable {σ : Type}

/-- The session in which nothing has been sent yet. -/
def start (backend : σ) : Session σ := ⟨backend, [], []⟩

/-- Notes a message in the log. -/
def record (session : Session σ) (level : LogLevel) (message : List Char) : Session σ :=
  { session with log := session.log ++ [⟨level, message⟩] }

end Session

/-- What a request needs: where it goes, the headers it carries, and the backend that answers. -/
structure Client (σ : Type) where
  /-- The address below which relative addresses lie. -/
  base : Url
  headers : Headers
  answer : Request → σ → Reply × σ

/-- The headers of every request: the type of bodies on both sides, and the token where there is
one. -/
def ApiSettings.headers (api : ApiSettings) : Headers :=
  [("Content-Type", "application/json"), ("Accept", "application/json")] ++
    if api.token.isEmpty then [] else [("Authorization", "Bearer " ++ api.token)]

/-- A text with a character outside ASCII fails. -/
def checkAscii (text : String) : Except Failure Unit :=
  let isAscii (character : Char) : Bool := character.toNat < 0x80
  let plain := text.toList.takeWhile isAscii
  match (text.toList.dropWhile isAscii).takeWhile (!isAscii ·) with
  | [] => .ok ()
  | foreign => .error (.headerNotAscii text plain.length (plain.length + foreign.length - 1))

/-- The first name or value of a header with a character outside ASCII fails. -/
def Headers.checkAscii : Headers → Except Failure Unit
  | [] => .ok ()
  | (name, value) :: rest =>
      match Rulebook.checkAscii name, Rulebook.checkAscii value with
      | .error failure, _ | _, .error failure => .error failure
      | .ok (), .ok () => checkAscii rest

namespace Client

variable {σ : Type}

/-- The client for the settings; they fail where the base address cannot be read or a header is not
ASCII. -/
def create (api : ApiSettings) (answer : Request → σ → Reply × σ) : Except Failure (Client σ) :=
  match Url.parse api.baseUrl.toList with
  | .error failure => .error failure
  | .ok url =>
      match url.asBase with
      | .error failure => .error failure
      | .ok base =>
          match api.headers.checkAscii with
          | .error failure => .error failure
          | .ok () => .ok ⟨base, api.headers, answer⟩

/-- The record that a client has been made. -/
def creationNote (api : ApiSettings) : List Char :=
  "Created async HTTP client for ".toList ++ api.baseUrl.toList ++ " (timeout=".toList ++
    api.timeout.text ++ "s)".toList

/-- The most redirects that are followed for one request. -/
def redirectLimit : Nat := 20

/-- The headers of a request to an address: a name or a password in the address takes the place of
the token. -/
def headersFor (client : Client σ) (url : Url) : Headers :=
  match url.credentials? with
  | none => client.headers
  | some credentials => client.headers.erase "Authorization" ++
      [("Authorization", String.ofList ("Basic ".toList ++ Text.base64 credentials))]

/-- The host of a request is named in ASCII, and in a way that can be read back. -/
def checkHost (url : Url) : Except Failure Unit :=
  match url.shownHost with
  | .error failure => .error failure
  | .ok _ => if url.host.isEmpty then .ok () else checkAscii (String.ofList url.hostText)

/-- The request of a candidate: its address below the base, its parameters and its body. -/
def compose (client : Client σ) (candidate : Candidate) : Except Failure Request :=
  match Url.parse candidate.url.toList with
  | .error failure => .error failure
  | .ok reference =>
      match (client.base.extend reference).bind (·.withParams candidate.params) with
      | .error failure => .error failure
      | .ok url =>
          if candidate.body.isFinite then
            (checkHost url).map fun () =>
              ⟨String.ofList candidate.verb, url, client.headersFor url, bodyOf candidate.body⟩
          else .error .numberOutOfRange

/-- Sends one request and takes the reply. -/
def exchange (client : Client σ) (request : Request) (session : Session σ) : Reply × Session σ :=
  let (reply, backend) := client.answer request session.backend
  (reply, { session with backend := backend, sent := session.sent ++ [request] })

/-- The method with which a redirect is followed: the status says whether the new address is only
to be read. -/
def redirectMethod (method : String) (status : Int) : String :=
  if (status = 302 ∨ status = 303) ∧ method ≠ "HEAD" then "GET"
  else if status = 301 ∧ method = "POST" then "GET"
  else method

/-- The address of a redirect: a relative one is seen from the request, and the fragment of the
request stays unless there is a new one. -/
def redirectUrl (request : Request) (reference : Url) : Except Failure Url :=
  let hosted : Except Failure Url :=
    if !reference.scheme.isEmpty && reference.host.isEmpty then reference.withHostOf request.url
    else .ok reference
  match hosted with
  | .error failure => .error failure
  | .ok reference =>
      let target := if reference.isAbsolute then .ok reference else request.url.join reference
      target.bind (·.withFragmentOf request.url)

/-- The headers of a redirected request. The token goes to the same server only. -/
def redirectHeaders (request : Request) (url : Url) : Except Failure Headers :=
  match url.shownHost, request.url.shownHost with
  | .error failure, _ | _, .error failure => .error failure
  | .ok host, .ok before =>
      if url.sameOrigin request.url host before then .ok request.headers
      else
        (checkAscii (String.ofList url.hostText)).map fun () =>
          if request.url.isSecuredBy url before host then request.headers
          else request.headers.erase "Authorization"

/-- The request that follows a redirect, or what becomes of the exchange without one. -/
def redirect (request : Request) (status : Int) (location : String) :
    Except (Except Failure Reply) Request :=
  match Url.parse location.toList with
  | .error failure => .error (.ok (.unreachable (String.ofList
      ("Invalid URL in location header: ".toList ++ failure.message ++ ['.']))
      "RemoteProtocolError"))
  | .ok reference =>
      match redirectUrl request reference with
      | .error failure => .error (.error failure)
      | .ok url =>
          match redirectHeaders request url with
          | .error failure => .error (.error failure)
          | .ok headers =>
              let method := redirectMethod request.method status
              .ok {
                method := method
                url := url
                headers := headers
                body :=
                  if method ≠ request.method ∧ method = "GET" then [] else request.body }

/-- What a client makes of a response: a failure, no answer if the body cannot be unpacked, or the
unpacked response. A response is taken only if its headers are in ASCII and its request has an
address under which it can be filed. -/
def receive (request : Request) (response : Response) : Except (Except Failure Reply) Response :=
  match response.headers.checkAscii, response.unpacked, request.url.checkFiling with
  | .error failure, _, _ => .error (.error failure)
  | .ok (), .error fault, _ =>
      .error (.ok (.unreachable (String.ofList fault.message) "DecodingError"))
  | .ok (), .ok _, .error failure => .error (.error failure)
  | .ok (), .ok response, .ok () => .ok response

/-- Sends a request and follows up to `left` redirects. -/
def follow (client : Client σ) :
    (left : Nat) → Request → Session σ → Except Failure Reply × Session σ
  | left, request, session =>
      let (reply, session) := client.exchange request session
      match reply with
      | .unreachable .. => (.ok reply, session)
      | .response response =>
          match receive request response with
          | .error outcome => (outcome, session)
          | .ok response =>
              match response.location? with
              | none => (.ok (.response response), session)
              | some location =>
                  match redirect request response.status location with
                  | .error outcome => (outcome, session)
                  | .ok next =>
                      match left with
                      | 0 => (.ok (.unreachable "Exceeded maximum allowed redirects."
                          "TooManyRedirects"), session)
                      | left + 1 => client.follow left next session

end Client

end Rulebook
