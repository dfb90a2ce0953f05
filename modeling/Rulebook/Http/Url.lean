import Rulebook.Failure
import Rulebook.Http.Address
import Rulebook.Http.Reference
import Rulebook.Number.Reading
import Rulebook.Text.Percent

/-!
# Addresses

`Url.parse` splits an address into its parts and normalizes them: scheme and host are in lower
case, a default port is left out, the segments `.` and `..` of a path are resolved, and characters
that cannot stand in a part are percent-encoded. A default port stays beside a scheme that is
written in upper case, until a part of the address is changed. `Url.extend` puts a path below a
base address, `Url.join` resolves a reference the way redirects need it, and `Url.text` writes an
address.
-/

namespace Rulebook

open Text

/-- An address in its normalized parts. -/
structure Url where
  scheme : List Char
  /-- What stands before the host, empty where there is nothing. -/
  userinfo : List Char
  /-- The host, empty in a relative address. -/
  host : List Char
  /-- The port, where it is not the default one of the scheme. -/
  port : Option Int
  path : List Char
  query : Option (List Char)
  /-- What follows the number sign. -/
  fragment : Option (List Char)
deriving DecidableEq, Repr, Inhabited

namespace Url

/-- The most characters of an address. -/
def maxLength : Nat := 65536

/-- The character is a control character of ASCII. -/
def isControl (character : Char) : Bool :=
  character.toNat < 0x20 || character.toNat == 0x7F

/-- The character is a printable one of ASCII and not one of these. -/
def isPrintableExcept (excluded : List Char) (character : Char) : Bool :=
  0x20 ≤ character.toNat && character.toNat ≤ 0x7E && !excluded.contains character

/-- The characters that stand for themselves in a fragment. -/
def isFragmentSafe : Char → Bool :=
  isPrintableExcept [' ', '"', '<', '>', '`']

/-- The characters that stand for themselves in a query. -/
def isQuerySafe : Char → Bool :=
  isPrintableExcept [' ', '"', '#', '<', '>']

/-- The characters that stand for themselves in a path. -/
def isPathSafe : Char → Bool :=
  isPrintableExcept [' ', '"', '#', '<', '>', '?', '`', '\x7b', '\x7d']

/-- The characters that stand for themselves before the host. -/
def isUserinfoSafe : Char → Bool :=
  isPrintableExcept [' ', '"', '#', '<', '>', '?', '`', '\x7b', '\x7d', '/', ';', '=', '@', '[',
    '\\', ']', '^', '|']

/-- The characters that stand for themselves in a host. -/
def isHostSafe (character : Char) : Bool :=
  isUnreserved character || "!$&'()*+,;=\"`\x7b\x7d%|\\".toList.contains character

/-- A part of an address with everything but the safe characters percent-encoded. -/
def encodePart (isSafe : Char → Bool) (part : List Char) : List Char :=
  part.flatMap (escapeUnless isSafe)

/-- A scheme in front of a text: a letter and further letters, digits, plus signs, points and
hyphens before a colon, or nothing before a colon. -/
def cutScheme (text : List Char) : List Char × List Char :=
  let isSchemeChar (character : Char) : Bool :=
    character.isAlphanum || character == '+' || character == '.' || character == '-'
  let scheme := text.takeWhile isSchemeChar
  match text.dropWhile isSchemeChar with
  | ':' :: rest => if (scheme.head?.map Char.isAlpha).getD true then (scheme, rest) else ([], text)
  | _ => ([], text)

/-- What stands before the last separator, if there is one, and what follows it. -/
def cutAtLast (separator : Char) (text : List Char) : Option (List Char) × List Char :=
  let (after, before) := cutAt separator text.reverse
  (before.map List.reverse, after.reverse)

/-- The host in front of what follows the user information, and what is left. An address in
brackets ends at the last closing bracket, any other host at a colon. -/
def cutHost (text : List Char) : List Char × List Char :=
  match text, cutAtLast ']' text with
  | '[' :: _, (some inside, rest) => (inside ++ [']'], rest)
  | _, _ => (text.takeWhile (· != ':'), text.dropWhile (· != ':'))

/-- The failure that a host is none of its kind. -/
def invalidHost (what : String) (host : List Char) : Failure :=
  .invalidUrl (String.ofList ("Invalid ".toList ++ what.toList ++ ": ".toList ++ quoted host))

/-- The host as it is kept: an address without brackets, or a name in lower case and encoded. -/
def normalizeHost (host : List Char) : Except Failure (List Char) :=
  if Address.looksLikeNumbers host then
    if Address.isQuad host then .ok host else .error (invalidHost "IPv4 address" host)
  else match host, cutAtLast ']' host with
    | '[' :: inside, (some _, []) =>
        if Address.isColonAddress inside.dropLast then .ok inside.dropLast
        else .error (invalidHost "IPv6 address" host)
    | _, _ =>
        if host.all fun character => character.toNat < 0x80 then
          .ok (encodePart isHostSafe (host.map Char.toLower))
        else match HostName.encode (lower host) with
          | .ok name => .ok name
          | .error _ => .error (invalidHost "IDNA hostname" host)

/-- The port that addresses of a scheme leave out. -/
def defaultPort? (scheme : List Char) : Option Int :=
  match String.ofList scheme with
  | "ftp" => some 21
  | "http" | "ws" => some 80
  | "https" | "wss" => some 443
  | _ => none

/-- The port that a text denotes, unless it is the default one. -/
def normalizePort (scheme : List Char) (port : List Char) : Except Failure (Option Int) :=
  if port.isEmpty then .ok none
  else match integer? port with
    | none => .error (.invalidUrl (String.ofList ("Invalid port: ".toList ++ quoted port)))
    | some number => .ok (if defaultPort? scheme = some number then none else some number)

/-- The segments that are left when `.` and `..` are resolved from left to right, onto the segments
`above` in reverse order. The root stays. -/
def resolveSegments (above : List (List Char)) : List (List Char) → List (List Char)
  | [] => above.reverse
  | segment :: rest =>
      if segment = ['.'] then resolveSegments above rest
      else if segment = ['.', '.'] then
        resolveSegments (if above = [[]] then above else above.tail) rest
      else resolveSegments (segment :: above) rest

/-- The path with the segments `.` and `..` resolved. -/
def resolveDots (path : List Char) : List Char :=
  let segments := splitAt '/' path
  if segments.contains ['.'] || segments.contains ['.', '.'] then
    join ['/'] (resolveSegments [] segments)
  else path

/-- The address names a host. -/
def hasAuthority (url : Url) : Bool :=
  !url.userinfo.isEmpty || !url.host.isEmpty || url.port.isSome

/-- Gives an address whose port is settled a path and a query. -/
def locate (url : Url) (path : List Char) (query : Option (List Char)) : Except Failure Url :=
  if url.hasAuthority && !path.isEmpty && path.head? != some '/' then
    .error (.invalidUrl "For absolute URLs, path must be empty or begin with '/'")
  else if !url.hasAuthority && url.scheme.isEmpty && ['/', '/'].isPrefixOf path then
    .error (.invalidUrl "Relative URLs cannot have a path starting with '//'")
  else if !url.hasAuthority && url.scheme.isEmpty && [':'].isPrefixOf path then
    .error (.invalidUrl "Relative URLs cannot have a path starting with ':'")
  else
    let resolved :=
      if url.hasAuthority || !url.scheme.isEmpty then resolveDots path else path
    .ok { url with path := encodePart isPathSafe resolved
                   query := query.map (encodePart isQuerySafe) }

/-- The host, with brackets where it holds colons. -/
def bracketedHost (host : List Char) : List Char :=
  if host.contains ':' then '[' :: host ++ [']'] else host

/-- The part of an address between scheme and path, without the user information. -/
def hostText (url : Url) : List Char :=
  bracketedHost url.host ++
    (match url.port with
      | some port => ':' :: signedDecimal port
      | none => [])

/-- The part of an address between scheme and path. -/
def authority (url : Url) : List Char :=
  (if url.userinfo.isEmpty then [] else url.userinfo ++ ['@']) ++ url.hostText

/-- The failure that a part of an address is too long. -/
def tooLong (part : String) : Failure :=
  .invalidUrl ("URL component '" ++ part ++ "' too long")

/-- Changes path, query and fragment of an address. Its host and its port are read once more, and no
part may be too long. -/
def withParts (url : Url) (path : List Char) (query fragment : Option (List Char)) :
    Except Failure Url :=
  let isLong (part : Option (List Char)) : Bool := part.any (maxLength < ·.length)
  if isLong (some url.authority) then .error (tooLong "authority")
  else if isLong (some path) then .error (tooLong "path")
  else if isLong query then .error (tooLong "query")
  else if isLong fragment then .error (tooLong "fragment")
  else match normalizeHost (bracketedHost url.host) with
    | .error failure => .error failure
    | .ok host =>
        ({ url with
            host := host
            port := if defaultPort? url.scheme = url.port then none else url.port
            fragment := fragment.map (encodePart isFragmentSafe) } : Url).locate path query

/-- The address with another path and query. -/
def withPath (url : Url) (path : List Char) (query : Option (List Char)) : Except Failure Url :=
  url.withParts path query url.fragment

/-- The first control character of a text, with its position. -/
def controlIn? (text : List Char) : Option (Char × Nat) :=
  text.zipIdx.find? fun (character, _) => isControl character

/-- The address without path, query and fragment that the text before the path denotes. -/
def parseAuthority (scheme authority : List Char) : Except Failure Url :=
  let (userinfo, hostAndPort) := cutAtLast '@' authority
  let (host, afterHost) := cutHost hostAndPort
  let port := match afterHost with
    | ':' :: port => port
    | port => port
  match normalizeHost host with
  | .error failure => .error failure
  | .ok host =>
      match normalizePort scheme port with
      | .error failure => .error failure
      | .ok port =>
          .ok ⟨scheme.map Char.toLower, encodePart isUserinfoSafe (userinfo.getD []), host, port,
            [], none, none⟩

/-- Reads an address. -/
def parse (text : List Char) : Except Failure Url :=
  if maxLength < text.length then .error (.invalidUrl "URL too long")
  else match controlIn? text with
    | some (character, position) =>
        .error (.invalidUrl (String.ofList
          ("Invalid non-printable ASCII character in URL, ".toList ++ quoted [character] ++
            " at position ".toList ++ decimal position ++ ['.'])))
    | none =>
        let (scheme, afterScheme) := cutScheme text
        let isAuthorityChar (character : Char) : Bool :=
          character != '/' && character != '?' && character != '#'
        let (authority, afterAuthority) := match afterScheme with
          | '/' :: '/' :: rest => (rest.takeWhile isAuthorityChar, rest.dropWhile isAuthorityChar)
          | _ => ([], afterScheme)
        let (beforeFragment, fragment) := cutAt '#' afterAuthority
        let (path, query) := cutAt '?' beforeFragment
        match parseAuthority scheme authority with
        | .error failure => .error failure
        | .ok url =>
            ({ url with fragment := fragment.map (encodePart isFragmentSafe) } : Url).locate
              path query

/-- The address written out. -/
def text (url : Url) : List Char :=
  (if url.scheme.isEmpty then [] else url.scheme ++ [':']) ++
    (if url.authority.isEmpty then [] else '/' :: '/' :: url.authority) ++ url.path ++
    (match url.query with
      | some query => '?' :: query
      | none => []) ++
    (match url.fragment with
      | some fragment => '#' :: fragment
      | none => [])

/-- The path and the query as a request names them; an empty path is the root. -/
def target (url : Url) : List Char :=
  (if url.path.isEmpty then ['/'] else url.path) ++
    (match url.query with
      | some query => '?' :: query
      | none => [])

/-- The address names a scheme and a host. -/
def isAbsolute (url : Url) : Bool :=
  !url.scheme.isEmpty && !url.host.isEmpty

/-- Gives an address the path and query that a request names. -/
def withTarget (url : Url) (target : List Char) : Except Failure Url :=
  let (path, query) := cutAt '?' target
  url.withPath path query

/-- An address below which others are put: its path ends in a slash. -/
def asBase (url : Url) : Except Failure Url :=
  if url.target.getLast? = some '/' then .ok url else url.withTarget (url.target ++ ['/'])

/-- Puts a relative reference below a base address, whatever slashes it begins with; an absolute
reference stands for itself. -/
def extend (base reference : Url) : Except Failure Url :=
  if reference.isAbsolute then .ok reference
  else base.withTarget (base.target ++ reference.target.dropWhile (· == '/'))

/-- A value of a parameter as the text that a query holds. -/
def paramText : Json → List Char
  | .bool true => "true".toList
  | .bool false => "false".toList
  | .null => []
  | value => value.display

/-- Parameters as the text of a query: a list repeats its name. -/
def queryOf (params : Json.Fields) : List Char :=
  join ['&'] (params.flatMap fun (name, value) =>
    let values := match value with
      | .arr items => items
      | single => [single]
    values.map fun item => formEncode name.toList ++ '=' :: formEncode (paramText item))

/-- Gives an address parameters, which replace its query. -/
def withParams (url : Url) : Option Json.Fields → Except Failure Url
  | none => .ok url
  | some [] => url.withPath url.path none
  | some params => url.withPath url.path (some (queryOf params))

/-- Resolves a reference against the address of the request. -/
def join (base reference : Url) : Except Failure Url :=
  if Reference.hasEvenBrackets base.text && Reference.hasEvenBrackets reference.text then
    parse (Reference.resolve base.text reference.text)
  else .error .unevenBrackets

/-- The host as it is written in its own script. -/
def shownHost (url : Url) : Except Failure (List Char) :=
  if "xn--".toList.isPrefixOf url.host then
    match HostName.decode url.host with
    | .ok host => .ok host
    | .error fault => .error (.invalidHostName fault)
  else .ok url.host

/-- Gives an address the host of another. -/
def withHostOf (url other : Url) : Except Failure Url :=
  match other.shownHost with
  | .error failure => .error failure
  | .ok host =>
      match normalizeHost (bracketedHost host) with
      | .error failure => .error failure
      | .ok host => ({ url with host := host } : Url).withPath url.path url.query

/-- Gives an address the fragment of another, unless it has one. -/
def withFragmentOf (url other : Url) : Except Failure Url :=
  let fragment := percentDecode (other.fragment.getD [])
  if fragment.isEmpty || !(percentDecode (url.fragment.getD [])).isEmpty then .ok url
  else match controlIn? fragment with
    | some (character, position) =>
        .error (.invalidUrl (String.ofList
          ("Invalid non-printable ASCII character in URL fragment component, ".toList ++
            quoted [character] ++ " at position ".toList ++ decimal position ++ ['.'])))
    | none => url.withParts url.path url.query (some fragment)

/-- The name under which a response is filed: the address, and the fragment after its last number
sign if there is one. -/
def filing (url : Url) : List Char × List Char :=
  match cutAtLast '#' url.text with
  | (some before, fragment) => (before, fragment)
  | (none, text) => (text, [])

/-- A response can be filed only under an address with a scheme: some characters before the first
colon, and no slash among them. -/
def checkFiling (url : Url) : Except Failure Unit :=
  let (name, fragment) := url.filing
  match cutAt ':' name with
  | (first :: rest, some _) =>
      if (first :: rest).contains '/' then .error (.unknownScheme (shown name fragment)) else .ok ()
  | _ => .error (.unknownScheme (shown name fragment))
where
  shown (name fragment : List Char) : String :=
    String.ofList (if fragment.isEmpty then name else name ++ '#' :: fragment)

/-- The name and the password in an address, with a colon between them, if it has any. -/
def credentials? (url : Url) : Option (List UInt8) :=
  let (name, password) := cutAt ':' url.userinfo
  let name := percentDecode name
  let password := percentDecode (password.getD [])
  if name.isEmpty && password.isEmpty then none
  else some (utf8 (name ++ ':' :: password))

/-- The port that a request to an address uses. -/
def effectivePort? (url : Url) : Option Int :=
  if url.port.isSome then url.port
  else if url.scheme = "http".toList ∨ url.scheme = "https".toList then defaultPort? url.scheme
  else none

/-- Two addresses with the given hosts lead to the same server. -/
def sameOrigin (left right : Url) (leftHost rightHost : List Char) : Bool :=
  left.scheme == right.scheme && leftHost == rightHost &&
    left.effectivePort? == right.effectivePort?

/-- The second address, with the given host, is the first one, secured. -/
def isSecuredBy (plain secured : Url) (plainHost securedHost : List Char) : Bool :=
  plainHost == securedHost && plain.scheme == "http".toList &&
    plain.effectivePort? == some 80 && secured.scheme == "https".toList &&
    secured.effectivePort? == some 443

end Url

end Rulebook
