import Mathlib
import Rulebook.Http.Resolve

/-!
# Failures beside the network

A request can fail without a network failure: its address is none, a host cannot be named, a
redirect leads nowhere, a header or an address of a response is not in order. Nothing that deals
with addresses and headers makes a network failure, so whatever goes wrong there can be told apart
from an answer of the backend and from its silence.
-/

namespace Rulebook

variable {α β : Type}

/-- No failure of the result is a network failure. -/
def IsOffNetwork (result : Except Failure α) : Prop :=
  ∀ failure, result = .error failure → Client.statusOf? failure = none

theorem isOffNetwork_ok (value : α) : IsOffNetwork (.ok value) := by
  rintro failure ⟨⟩

theorem isOffNetwork_error {failure : Failure} (other : Client.statusOf? failure = none) :
    IsOffNetwork (.error failure : Except Failure α) := by
  rintro _ ⟨⟩
  exact other

theorem IsOffNetwork.bind {result : Except Failure α} {next : α → Except Failure β}
    (first : IsOffNetwork result) (later : ∀ value, IsOffNetwork (next value)) :
    IsOffNetwork (result.bind next) := by
  cases result with
  | error failure => exact isOffNetwork_error (first failure rfl)
  | ok value => exact later value

theorem IsOffNetwork.map {result : Except Failure α} (first : IsOffNetwork result)
    (change : α → β) : IsOffNetwork (result.map change) := by
  cases result with
  | error failure => exact isOffNetwork_error (first failure rfl)
  | ok value => exact isOffNetwork_ok _

theorem isOffNetwork_ite {condition : Prop} [Decidable condition] {left right : Except Failure α}
    (onLeft : IsOffNetwork left) (onRight : IsOffNetwork right) :
    IsOffNetwork (if condition then left else right) := by
  split
  · exact onLeft
  · exact onRight

/-! ## Addresses -/

namespace Url

theorem locate_isOffNetwork (url : Url) (path : List Char) (query : Option (List Char)) :
    IsOffNetwork (url.locate path query) := by
  rw [locate]
  split
  · exact isOffNetwork_error rfl
  split
  · exact isOffNetwork_error rfl
  split
  · exact isOffNetwork_error rfl
  · exact isOffNetwork_ok _

theorem normalizeHost_isOffNetwork (host : List Char) : IsOffNetwork (normalizeHost host) := by
  unfold normalizeHost
  refine isOffNetwork_ite (isOffNetwork_ite (isOffNetwork_ok _) (isOffNetwork_error rfl)) ?_
  split
  · exact isOffNetwork_ite (isOffNetwork_ok _) (isOffNetwork_error rfl)
  refine isOffNetwork_ite (isOffNetwork_ok _) ?_
  · split
    · exact isOffNetwork_ok _
    · exact isOffNetwork_error rfl

theorem normalizePort_isOffNetwork (scheme port : List Char) :
    IsOffNetwork (normalizePort scheme port) := by
  rw [normalizePort]
  split
  · exact isOffNetwork_ok _
  split
  · exact isOffNetwork_error rfl
  · exact isOffNetwork_ok _

theorem withParts_isOffNetwork (url : Url) (path : List Char)
    (query fragment : Option (List Char)) : IsOffNetwork (url.withParts path query fragment) := by
  simp only [withParts]
  iterate 4
    refine isOffNetwork_ite (isOffNetwork_error rfl) ?_
  split
  · next failed => exact isOffNetwork_error (normalizeHost_isOffNetwork _ _ failed)
  · exact locate_isOffNetwork _ _ _

theorem parseAuthority_isOffNetwork (scheme authority : List Char) :
    IsOffNetwork (parseAuthority scheme authority) := by
  simp only [parseAuthority]
  split
  · next failed => exact isOffNetwork_error (normalizeHost_isOffNetwork _ _ failed)
  split
  · next failed => exact isOffNetwork_error (normalizePort_isOffNetwork _ _ _ failed)
  · exact isOffNetwork_ok _

theorem parse_isOffNetwork (text : List Char) : IsOffNetwork (parse text) := by
  simp only [parse]
  refine isOffNetwork_ite (isOffNetwork_error rfl) ?_
  split
  · exact isOffNetwork_error rfl
  split
  · next failed => exact isOffNetwork_error (parseAuthority_isOffNetwork _ _ _ failed)
  · exact locate_isOffNetwork _ _ _

theorem extend_isOffNetwork (base reference : Url) : IsOffNetwork (base.extend reference) := by
  rw [extend]
  split
  · exact isOffNetwork_ok reference
  · exact withParts_isOffNetwork _ _ _ _

theorem withParams_isOffNetwork (url : Url) (params : Option Json.Fields) :
    IsOffNetwork (url.withParams params) := by
  match params with
  | none => exact isOffNetwork_ok url
  | some [] => exact withParts_isOffNetwork _ _ _ _
  | some (_ :: _) => exact withParts_isOffNetwork _ _ _ _

theorem join_isOffNetwork (base reference : Url) : IsOffNetwork (base.join reference) := by
  rw [join]
  split
  · exact parse_isOffNetwork _
  · exact isOffNetwork_error rfl

theorem shownHost_isOffNetwork (url : Url) : IsOffNetwork url.shownHost := by
  rw [shownHost]
  split
  · split
    · exact isOffNetwork_ok _
    · exact isOffNetwork_error rfl
  · exact isOffNetwork_ok _

theorem withHostOf_isOffNetwork (url other : Url) : IsOffNetwork (url.withHostOf other) := by
  rw [withHostOf]
  split
  · next failed => exact isOffNetwork_error (shownHost_isOffNetwork other _ failed)
  split
  · next failed => exact isOffNetwork_error (normalizeHost_isOffNetwork _ _ failed)
  · exact withParts_isOffNetwork _ _ _ _

theorem withFragmentOf_isOffNetwork (url other : Url) :
    IsOffNetwork (url.withFragmentOf other) := by
  simp only [withFragmentOf]
  refine isOffNetwork_ite (isOffNetwork_ok url) ?_
  split
  · exact isOffNetwork_error rfl
  · exact withParts_isOffNetwork _ _ _ _

theorem checkFiling_isOffNetwork (url : Url) : IsOffNetwork url.checkFiling := by
  simp only [checkFiling]
  split
  · exact isOffNetwork_ite (isOffNetwork_error rfl) (isOffNetwork_ok ())
  · exact isOffNetwork_error rfl

end Url

/-! ## Headers -/

theorem checkAscii_isOffNetwork (text : String) : IsOffNetwork (checkAscii text) := by
  simp only [checkAscii]
  split
  · exact isOffNetwork_ok ()
  · exact isOffNetwork_error rfl

theorem Headers.checkAscii_isOffNetwork (headers : Headers) :
    IsOffNetwork headers.checkAscii := by
  induction headers with
  | nil => exact isOffNetwork_ok ()
  | cons first rest ih =>
      rw [Headers.checkAscii]
      split
      · next named => exact isOffNetwork_error (Rulebook.checkAscii_isOffNetwork _ _ named)
      · next held _ => exact isOffNetwork_error (Rulebook.checkAscii_isOffNetwork _ _ held)
      · exact ih

/-! ## Requests -/

namespace Client

variable {σ : Type}

theorem checkHost_isOffNetwork (url : Url) : IsOffNetwork (checkHost url) := by
  rw [checkHost]
  split
  · next failed => exact isOffNetwork_error (url.shownHost_isOffNetwork _ failed)
  · exact isOffNetwork_ite (isOffNetwork_ok ()) (checkAscii_isOffNetwork _)

theorem compose_isOffNetwork (client : Client σ) (candidate : Candidate) :
    IsOffNetwork (client.compose candidate) := by
  have url_isOffNetwork : ∀ reference,
      IsOffNetwork ((client.base.extend reference).bind (·.withParams candidate.params)) :=
    fun reference => (client.base.extend_isOffNetwork reference).bind fun url =>
      url.withParams_isOffNetwork candidate.params
  rw [compose]
  split
  · next failed => exact isOffNetwork_error (Url.parse_isOffNetwork _ _ failed)
  split
  · next failed => exact isOffNetwork_error (url_isOffNetwork _ _ failed)
  · exact isOffNetwork_ite ((checkHost_isOffNetwork _).map _) (isOffNetwork_error rfl)

theorem redirectUrl_isOffNetwork (request : Request) (reference : Url) :
    IsOffNetwork (redirectUrl request reference) := by
  have hosted_isOffNetwork : IsOffNetwork
      (if !reference.scheme.isEmpty && reference.host.isEmpty then
        reference.withHostOf request.url
      else .ok reference) :=
    isOffNetwork_ite (reference.withHostOf_isOffNetwork _) (isOffNetwork_ok reference)
  simp only [redirectUrl]
  split
  · next failed => exact isOffNetwork_error (hosted_isOffNetwork _ failed)
  · next hosted _ =>
    have target_isOffNetwork : IsOffNetwork
        (if hosted.isAbsolute then .ok hosted else request.url.join hosted) :=
      isOffNetwork_ite (isOffNetwork_ok hosted) (request.url.join_isOffNetwork hosted)
    exact target_isOffNetwork.bind fun url => url.withFragmentOf_isOffNetwork _

theorem redirectHeaders_isOffNetwork (request : Request) (url : Url) :
    IsOffNetwork (redirectHeaders request url) := by
  rw [redirectHeaders]
  split
  · next hidden => exact isOffNetwork_error (url.shownHost_isOffNetwork _ hidden)
  · next hidden _ => exact isOffNetwork_error (request.url.shownHost_isOffNetwork _ hidden)
  · exact isOffNetwork_ite (isOffNetwork_ok _) ((checkAscii_isOffNetwork _).map _)

/-- A redirect that is not followed ends in a reply, or in a failure beside the network. -/
theorem redirect_isOffNetwork {request : Request} {status : Int} {location : String}
    {outcome : Except Failure Reply} (ended : redirect request status location = .error outcome) :
    IsOffNetwork outcome := by
  rw [redirect] at ended
  split at ended
  · cases ended
    exact isOffNetwork_ok _
  · split at ended
    · next failed =>
      cases ended
      exact isOffNetwork_error (redirectUrl_isOffNetwork _ _ _ failed)
    · split at ended
      · next failed =>
        cases ended
        exact isOffNetwork_error (redirectHeaders_isOffNetwork _ _ _ failed)
      · cases ended

theorem receive_isOffNetwork {request : Request} {response : Response}
    {outcome : Except Failure Reply} (ended : receive request response = .error outcome) :
    IsOffNetwork outcome := by
  rw [receive] at ended
  split at ended
  · next failed =>
    cases ended
    exact isOffNetwork_error (Headers.checkAscii_isOffNetwork _ _ failed)
  · cases ended
    exact isOffNetwork_ok _
  · next failed =>
    cases ended
    exact isOffNetwork_error (request.url.checkFiling_isOffNetwork _ failed)
  · cases ended

end Client

end Rulebook
