import Rulebook.Text.Lines

/-!
# References

A reference is an address as it stands in a document: parts of it may be missing and are taken from
the address of the document. `resolve` gives the text of the address that a reference means. A
reference of a scheme that knows no relative references, or of another scheme than the document, is
taken as it is.
-/

namespace Rulebook

open Text

/-- An address in its written parts; an empty part is one that is missing. -/
structure Reference where
  scheme : List Char
  /-- The host, with what stands around it. -/
  authority : List Char
  path : List Char
  params : List Char
  query : List Char
  /-- What follows the number sign. -/
  fragment : List Char
deriving DecidableEq, Repr, Inhabited

namespace Reference

/-- The schemes in whose documents a reference may leave out parts. -/
def relativeSchemes : List String :=
  ["", "ftp", "http", "gopher", "nntp", "imap", "wais", "file", "https", "shttp", "mms",
    "prospero", "rtsp", "rtspu", "sftp", "svn", "svn+ssh", "ws", "wss"]

/-- The schemes in whose addresses the last segment may have parameters. -/
def paramSchemes : List String :=
  ["", "ftp", "hdl", "prospero", "http", "imap", "https", "shttp", "rtsp", "rtspu", "sip", "sips",
    "mms", "sftp", "tel"]

/-- The scheme in front of a text, in lower case, and what follows its colon. -/
def cutScheme? (text : List Char) : Option (List Char × List Char) :=
  match text, cutAt ':' text with
  | first :: _, (scheme, some rest) =>
      if first.isAlpha && !scheme.isEmpty && scheme.all fun character =>
          character.isAlphanum || ['+', '-', '.'].contains character then
        some (scheme.map Char.toLower, rest)
      else none
  | _, _ => none

/-- The parameters of the last segment, apart from the path before them. -/
def cutParams (path : List Char) : List Char × List Char :=
  let segments := splitAt '/' path
  let (last, params) := cutAt ';' (segments.getLast?.getD [])
  match params with
  | none => (path, [])
  | some params => (join ['/'] (segments.dropLast ++ [last]), params)

/-- Reads a reference; one without a scheme has the given one. -/
def parse (scheme : List Char) (text : List Char) : Reference :=
  let (scheme, rest) := (cutScheme? text).getD (scheme, text)
  let isAuthorityChar (character : Char) : Bool := !(['/', '?', '#'].contains character)
  let (authority, rest) := match rest with
    | '/' :: '/' :: rest => (rest.takeWhile isAuthorityChar, rest.dropWhile isAuthorityChar)
    | _ => ([], rest)
  let (rest, fragment) := cutAt '#' rest
  let (path, query) := cutAt '?' rest
  let (path, params) :=
    if paramSchemes.contains (String.ofList scheme) then cutParams path else (path, [])
  ⟨scheme, authority, path, params, query.getD [], fragment.getD []⟩

/-- The host in a text opens a bracket if and only if it closes one. -/
def hasEvenBrackets (text : List Char) : Bool :=
  let host := (parse [] text).authority
  host.contains '[' == host.contains ']'

/-- The reference written out. -/
def text (reference : Reference) : List Char :=
  let path := reference.path ++
    if reference.params.isEmpty then [] else ';' :: reference.params
  let located :=
    if !reference.authority.isEmpty || !reference.scheme.isEmpty || ['/', '/'].isPrefixOf path then
      '/' :: '/' :: reference.authority ++
        (if path.isEmpty || path.head? == some '/' then path else '/' :: path)
    else path
  (if reference.scheme.isEmpty then [] else reference.scheme ++ [':']) ++ located ++
    (if reference.query.isEmpty then [] else '?' :: reference.query) ++
    (if reference.fragment.isEmpty then [] else '#' :: reference.fragment)

/-- The segments of a path seen from the path of a document. Empty segments between the first and
the last are left out of a path that does not begin at the root. -/
def segmentsFrom (document path : List Char) : List (List Char) :=
  if path.head? = some '/' then splitAt '/' path
  else
    let base := splitAt '/' document
    let directory := if base.getLast? = some [] then base else base.dropLast
    let all := directory ++ splitAt '/' path
    all.take 1 ++ ((all.drop 1).dropLast.filter (!·.isEmpty)) ++
      (all.drop 1).drop (all.length - 2)

/-- The path of segments in which `.` stands for nothing and `..` takes the one before away. -/
def pathOf (segments : List (List Char)) : List Char :=
  let kept := segments.foldl (fun (above : List (List Char)) segment =>
    if segment = ['.', '.'] then above.dropLast
    else if segment = ['.'] then above
    else above ++ [segment]) []
  let isDots (segment : List Char) : Bool := segment == ['.'] || segment == ['.', '.']
  let path := join ['/'] (if segments.getLast?.any isDots then kept ++ [[]] else kept)
  if path.isEmpty then ['/'] else path

/-- The address that a reference means in a document. -/
def resolve (document reference : List Char) : List Char :=
  if document.isEmpty then reference
  else if reference.isEmpty then document
  else
    let base := parse [] document
    let target := parse base.scheme reference
    if target.scheme ≠ base.scheme ∨ !relativeSchemes.contains (String.ofList target.scheme) then
      reference
    else if !target.authority.isEmpty then target.text
    else
      let target := { target with authority := base.authority }
      if target.path.isEmpty && target.params.isEmpty then
        ({ target with
            path := base.path
            params := base.params
            query := if target.query.isEmpty then base.query else target.query } : Reference).text
      else ({ target with path := pathOf (segmentsFrom base.path target.path) } : Reference).text

end Reference

end Rulebook
