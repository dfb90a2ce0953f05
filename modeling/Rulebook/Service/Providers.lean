import Rulebook.Envelope
import Rulebook.Http.Resolve

/-!
# Integration providers on the backend

Listing, connecting, disconnecting and syncing providers of other services and asking for their
status. Every operation is a chain of candidates, and every candidate of a chain names the same
provider: in its path, in its body, or in its query. A blank key sends nothing.
-/

namespace Rulebook

/-- The routes under which the listing of providers may be found. -/
def providerListCandidates : List Candidate :=
  ["/integrations", "/integrations/list", "/integrations/providers", "/settings/integrations",
    "/integration"].map fun route => ⟨"get", route, .null, none⟩

/-- The key of a provider without the blanks around it. -/
def providerKey (key : Json) : List Char :=
  key.trimmedText

/-- A route with the encoded key of a provider in it. -/
def providerRoute (above : String) (key : List Char) (below : String) : String :=
  String.ofList (above.toList ++ Text.percentEncode key ++ below.toList)

/-- A body that names a provider. -/
def providerBody (field : String) (key : List Char) : Json :=
  .obj [(field, .str (String.ofList key))]

/-- The routes by which a provider may be connected, in their order. -/
def connectCandidates (key : List Char) : List Candidate :=
  [⟨"post", providerRoute "/integrations/" key "/connect", .null, none⟩,
    ⟨"post", "/integrations/connect", providerBody "provider" key, none⟩,
    ⟨"post", "/integrations/connect", providerBody "key" key, none⟩]

/-- The routes by which a provider may be disconnected, in their order. -/
def disconnectCandidates (key : List Char) : List Candidate :=
  [⟨"post", providerRoute "/integrations/" key "/disconnect", .null, none⟩,
    ⟨"delete", providerRoute "/integrations/" key "", .null, none⟩,
    ⟨"post", "/integrations/disconnect", providerBody "provider" key, none⟩]

/-- The routes by which the data of a provider may be fetched anew, in their order. -/
def syncCandidates (key : List Char) : List Candidate :=
  [⟨"post", providerRoute "/integrations/" key "/sync", .null, none⟩,
    ⟨"post", "/integrations/sync", providerBody "provider" key, none⟩,
    ⟨"post", providerRoute "/sync/" key "", .null, none⟩]

/-- The routes by which a provider may be asked for its status, in their order. -/
def statusCandidates (key : List Char) : List Candidate :=
  [⟨"get", providerRoute "/integrations/" key "/status", .null, none⟩,
    ⟨"get", "/integrations/status", .null, some [("provider", .str (String.ofList key))]⟩]

/-- What can be done with a provider. -/
inductive ProviderOperation
  | connect
  | disconnect
  | sync
  | status
deriving DecidableEq, Repr, Inhabited

namespace ProviderOperation

/-- Every operation on a provider. -/
def all : List ProviderOperation := [connect, disconnect, sync, status]

/-- The word for the operation. -/
def name : ProviderOperation → String
  | connect => "connect"
  | disconnect => "disconnect"
  | sync => "sync"
  | status => "status"

/-- The routes of the operation on the provider of a key. -/
def candidates : ProviderOperation → List Char → List Candidate
  | connect => connectCandidates
  | disconnect => disconnectCandidates
  | sync => syncCandidates
  | status => statusCandidates

/-- How the log announces an operation. Asking for the status is not announced. -/
def announcement? : ProviderOperation → Option String
  | connect => some "Connecting integration "
  | disconnect => some "Disconnecting integration "
  | sync => some "Syncing integration "
  | status => none

end ProviderOperation

namespace Client

variable {σ : Type} (client : Client σ)

/-- Fetches the providers, whatever envelope the backend puts them in. -/
def listProviders (session : Session σ) : Except Failure (List Json) × Session σ :=
  let (result, session) := client.resolve fallbackStatuses providerListCandidates session
  (result.map normalizeIntegrations, session)

/-- Carries out an operation on a provider; with a blank key there is nothing to do. -/
def operate (operation : ProviderOperation) (provider : Json) (session : Session σ) :
    Except Failure Json × Session σ :=
  let key := providerKey provider
  if key.isEmpty then (.ok .null, session)
  else
    let session := match operation.announcement? with
      | some text => session.record .info (text.toList ++ key)
      | none => session
    client.resolve fallbackStatuses (operation.candidates key) session

end Client

end Rulebook
