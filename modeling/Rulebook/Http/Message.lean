import Rulebook.Http.Coding
import Rulebook.Http.MediaType
import Rulebook.Http.Url
import Rulebook.Json.Parser
import Rulebook.Json.Printer

/-!
# Requests and responses

A request carries its body as bytes; a value is sent as compact JSON text in UTF-8, and `null` is
sent as no body at all. `Response.unpacked` undoes the codings of the body of a response, and
`Response.value` reads it back: JSON in any Unicode encoding, otherwise a text in the declared
character set. A backend may also give no response.
-/

namespace Rulebook

/-- Named header values. The case of a name does not matter. -/
abbrev Headers := List (String × String)

namespace Headers

/-- The name of a header as names are compared: in lower case. -/
def key (name : String) : String := name.map Char.toLower

/-- The value of a header; several values are joined by commas. -/
def get? (headers : Headers) (name : String) : Option String :=
  match headers.filter fun (other, _) => key other == key name with
  | [] => none
  | found => some (", ".intercalate (found.map Prod.snd))

/-- The headers without those of a name. -/
def erase (headers : Headers) (name : String) : Headers :=
  headers.filter fun (other, _) => key other != key name

end Headers

/-- A request as it is sent. -/
structure Request where
  method : String
  url : Url
  headers : Headers
  /-- The body, empty where there is none. -/
  body : List UInt8
deriving DecidableEq, Repr, Inhabited

/-- A response as it is received. -/
structure Response where
  status : Int
  headers : Headers
  /-- The body, empty where there is none. -/
  body : List UInt8
deriving DecidableEq, Repr, Inhabited

/-- What becomes of a request. -/
inductive Reply
  | response (response : Response)
  /-- There is no answer: what is said about it, and the name of the failure. -/
  | unreachable (message name : String)
deriving DecidableEq, Repr, Inhabited

/-- The bytes in which a value is sent; `null` is no body. -/
def bodyOf : Json → List UInt8
  | .null => []
  | value => Text.utf8 (value.print Json.compact)

namespace Response

/-- The status says that the request succeeded. -/
def isSuccess (response : Response) : Bool :=
  200 ≤ response.status && response.status < 300

/-- The response with its body as it was before it was packed. -/
def unpacked (response : Response) : Except PackFault Response :=
  let codings := match response.headers.get? "content-encoding" with
    | none => []
    | some names => Coding.listed names.toList
  (Coding.unpackAll codings response.body).map fun body => { response with body := body }

/-- The character set that the response declares, UTF-8 where it is none that is known. -/
def charset (response : Response) : Except Text.CharsetFault Text.Charset :=
  match response.headers.get? "content-type" with
  | none => .ok .utf8
  | some type => MediaType.charset type.toList

/-- The body read as text in its character set, where every byte that is none of it becomes a
replacement. -/
def text (response : Response) : Except Failure Json :=
  match response.charset.bind (·.decodeLossy response.body) with
  | .error fault => .error (.unreadableBody fault)
  | .ok text => .ok (.str (String.ofList text))

/-- The value of bytes that are JSON text. -/
def jsonOf? (body : List UInt8) : Option Json :=
  match (Text.Charset.detect body).decode? body with
  | none => none
  | some text => (Json.parse text).toOption

/-- What the body of a response says: nothing, a JSON value, or a text. It is assumed that there is
room for as many levels as the body nests. -/
def value (response : Response) : Except Failure Json :=
  if response.body.isEmpty then .ok .null
  else match jsonOf? response.body with
    | some value => .ok value
    | none => response.text

/-- The address that the response sends the client to. -/
def location? (response : Response) : Option String :=
  if [301, 302, 303, 307, 308].contains response.status then response.headers.get? "location"
  else none

end Response

end Rulebook
