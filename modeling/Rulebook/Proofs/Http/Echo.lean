import Mathlib
import Rulebook.Proofs.Http.Bodies
import Rulebook.Proofs.Http.Turns

/-!
# Bodies that come back

A response whose body is the compact text of a plain value says this value. So a backend that sends
every body back gives every request its own value back: the body that was sent is the text of the
value, or nothing for `null`, and nothing is read as `null` again. What can go wrong has nothing to
do with the value: the candidate has no address, or none under which an answer can be filed.
-/

namespace Rulebook

/-! ## Values of responses -/

/-- The compact text of a plain value is the text of nothing else. -/
theorem Response.value_of_utf8_print {response : Response} {value : Json} (plain : value.IsPlain)
    (written : response.body = Text.utf8 (value.print Json.compact)) :
    response.value = .ok value := by
  have read := jsonOf?_utf8_print plain
  have nothing : Response.jsonOf? [] = none := by decide +kernel
  rw [Response.value, written]
  split
  · next empty =>
    rw [List.isEmpty_iff.mp empty] at read
    cases nothing.symm.trans read
  · rw [read]

theorem Response.value_of_bodyOf {response : Response} {value : Json} (plain : value.IsPlain)
    (written : response.body = bodyOf value) : response.value = .ok value := by
  by_cases none : value = .null
  · subst none
    rw [Response.value, written]
    rfl
  · exact value_of_utf8_print plain (written.trans (bodyOf_of_ne_null none))

namespace Json

theorem itemsFinite_iff {items : List Json} :
    itemsFinite items = true ↔ ∀ item ∈ items, item.isFinite = true := by
  induction items with
  | nil => simp [itemsFinite]
  | cons first more ih => simp [itemsFinite, ih]

theorem fieldsFinite_iff {fields : Fields} :
    fieldsFinite fields = true ↔ ∀ field ∈ fields, field.2.isFinite = true := by
  induction fields with
  | nil => simp [fieldsFinite]
  | cons first more ih => simp [fieldsFinite, ih]

theorem IsPlain.isFinite {value : Json} (plain : value.IsPlain) : value.isFinite = true := by
  induction plain with
  | null => rfl
  | bool value => rfl
  | int short => rfl
  | str text => rfl
  | arr each ih => exact itemsFinite_iff.mpr ih
  | obj distinct each ih => exact fieldsFinite_iff.mpr ih

end Json

namespace Client

variable {σ : Type} {client : Client σ} {candidate : Candidate} {session : Session σ}

/-- The backend answers every request with success, under headers that can be read, and once it is
unpacked the body of the answer is that of the request. -/
def Echoes (client : Client σ) : Prop :=
  ∀ request backend, ∃ response after,
    client.answer request backend = (.response response, after) ∧ response.isSuccess = true ∧
      response.headers.checkAscii = .ok () ∧
      response.unpacked = .ok { response with body := request.body }

/-- The address of a candidate. -/
def addressOf (client : Client σ) (candidate : Candidate) : Except Failure Url :=
  (Url.parse candidate.url.toList).bind fun reference =>
    (client.base.extend reference).bind fun below =>
      (below.withParams candidate.params).bind fun url => (checkHost url).map fun () => url

/-- The address of a candidate as one under which an answer can be filed. -/
def filedAt (client : Client σ) (candidate : Candidate) : Except Failure Url :=
  (client.addressOf candidate).bind fun url => url.checkFiling.map fun () => url

/-! ## Requests -/

theorem location?_of_isSuccess {response : Response} (success : response.isSuccess = true) :
    response.location? = none := by
  have noRedirect : [301, 302, 303, 307, 308].contains response.status = false := by
    simp only [Response.isSuccess, Bool.and_eq_true, decide_eq_true_eq] at success
    simp only [List.contains_eq_mem, List.mem_cons, List.not_mem_nil, or_false,
      decide_eq_false_iff_not]
    omega
  rw [Response.location?, noRedirect]
  rfl

/-- A candidate whose body can be written is composed if it has an address. -/
theorem compose_eq_map (finite : candidate.body.isFinite = true) :
    client.compose candidate = (client.addressOf candidate).map fun url =>
      ⟨String.ofList candidate.verb, url, client.headersFor url, bodyOf candidate.body⟩ := by
  rw [compose, addressOf]
  cases Url.parse candidate.url.toList with
  | error failure => rfl
  | ok reference =>
      simp only [Except.bind]
      cases client.base.extend reference with
      | error failure => rfl
      | ok below =>
          simp only
          cases below.withParams candidate.params with
          | error failure => rfl
          | ok url =>
              simp only [finite, if_true]
              cases checkHost url <;> rfl

/-- The answer of an echo is received if it can be filed. -/
theorem exists_answer_of_echoes (echoes : client.Echoes) (request : Request) (backend : σ) :
    ∃ response after taken, client.answer request backend = (.response response, after) ∧
      taken.isSuccess = true ∧ taken.body = request.body ∧
      receive request response = match request.url.checkFiling with
        | .error failure => .error (.error failure)
        | .ok () => .ok taken := by
  rcases echoes request backend with ⟨response, after, answered, success, ascii, unpacked⟩
  refine ⟨response, after, { response with body := request.body }, answered, success, rfl, ?_⟩
  rw [receive, ascii, unpacked]
  cases request.url.checkFiling <;> rfl

/-- An exchange with an echo takes one request, and ends in the body of this request if the answer
can be filed. -/
theorem exists_follow_of_echoes (echoes : client.Echoes) (left : Nat) (request : Request)
    (session : Session σ) :
    ∃ after taken, taken.isSuccess = true ∧ taken.body = request.body ∧
      client.follow left request session =
        (request.url.checkFiling.map fun () => .response taken,
          ⟨after, session.sent ++ [request], session.log⟩) := by
  rcases exists_answer_of_echoes echoes request session.backend with
    ⟨response, after, taken, answered, success, body, received⟩
  refine ⟨after, taken, success, body, ?_⟩
  rw [follow_eq]
  simp only [exchange, answered, heed, received]
  cases request.url.checkFiling with
  | error failure => rfl
  | ok _ =>
      simp only [location?_of_isSuccess success]
      rfl

theorem filedAt_eq_ok_iff {url : Url} : client.filedAt candidate = .ok url ↔
    client.addressOf candidate = .ok url ∧ url.checkFiling = .ok () := by
  rw [filedAt]
  cases client.addressOf candidate with
  | error failure => simp [Except.bind]
  | ok other =>
      simp only [Except.bind, Except.ok.injEq]
      cases filed : other.checkFiling with
      | error failure =>
          simp only [Except.map, reduceCtorEq, false_iff, not_and]
          rintro rfl
          simp [filed]
      | ok _ =>
          simp only [Except.map, Except.ok.injEq, iff_self_and]
          rintro rfl
          exact filed

/-- A request to an echo comes to its own body. -/
theorem request_of_filedAt (echoes : client.Echoes) (plain : candidate.body.IsPlain) {url : Url}
    (filed : client.filedAt candidate = .ok url) (session : Session σ) :
    ∃ request after, request.url = url ∧ request.body = bodyOf candidate.body ∧
      client.request candidate session =
        (.ok candidate.body, ⟨after, session.sent ++ [request], session.log⟩) := by
  rcases filedAt_eq_ok_iff.mp filed with ⟨located, checked⟩
  have composed := client.compose_eq_map plain.isFinite
  rw [located, Except.map] at composed
  rcases exists_follow_of_echoes echoes redirectLimit
    ⟨String.ofList candidate.verb, url, client.headersFor url, bodyOf candidate.body⟩ session with
    ⟨after, taken, success, body, followed⟩
  refine ⟨⟨String.ofList candidate.verb, url, client.headersFor url, bodyOf candidate.body⟩, after,
    rfl, rfl, ?_⟩
  rw [checked, Except.map] at followed
  rw [request, composed]
  simp only [followed, Candidate.outcome, Response.value_of_bodyOf plain body, success, if_true]

/-- Without an address under which an answer can be filed, a request fails whatever is sent. -/
theorem request_of_not_filedAt (echoes : client.Echoes) (plain : candidate.body.IsPlain)
    {failure : Failure} (failed : client.filedAt candidate = .error failure)
    (session : Session σ) : (client.request candidate session).1 = .error failure := by
  have composed := client.compose_eq_map plain.isFinite
  rw [filedAt] at failed
  rw [request, composed]
  cases located : client.addressOf candidate with
  | error other =>
      rw [located] at failed
      cases failed
      rfl
  | ok url =>
      rw [located, Except.bind] at failed
      cases checked : url.checkFiling with
      | ok _ =>
          rw [checked] at failed
          cases failed
      | error other =>
          rw [checked] at failed
          cases failed
          rcases exists_follow_of_echoes echoes redirectLimit
            ⟨String.ofList candidate.verb, url, client.headersFor url, bodyOf candidate.body⟩
            session with ⟨after, taken, _, _, followed⟩
          rw [checked, Except.map] at followed
          simp only [Except.map, followed]

end Client

/-- A plain value survives the way to the backend and back: a response that holds its compact text
says this value, and from a backend that sends every body back comes the value itself, also where it
is `null` and nothing is sent. The one request fails only where it has no address under which the
answer can be filed, and then for every value. -/
theorem bodies_come_back {value : Json} (plain : value.IsPlain) :
    (∀ response : Response, response.body = Text.utf8 (value.print Json.compact) →
      response.value = .ok value) ∧
    ∀ {σ : Type} (client : Client σ), client.Echoes →
      ∀ (candidate : Candidate) (session : Session σ), candidate.body = value →
        (∀ url, client.filedAt candidate = .ok url → ∃ request after,
          request.url = url ∧
          request.body = (if value = .null then [] else Text.utf8 (value.print Json.compact)) ∧
          client.request candidate session =
            (.ok value, ⟨after, session.sent ++ [request], session.log⟩)) ∧
        (∀ failure, client.filedAt candidate = .error failure →
          (client.request candidate session).1 = .error failure) := by
  refine ⟨fun _ written => Response.value_of_utf8_print plain written, ?_⟩
  rintro σ client echoes candidate session rfl
  refine ⟨fun url filed => ?_, fun failure failed =>
    Client.request_of_not_filedAt echoes plain failed session⟩
  rcases Client.request_of_filedAt echoes plain filed session with
    ⟨request, after, atUrl, body, came⟩
  refine ⟨request, after, atUrl, ?_, came⟩
  rw [body]
  split
  · next none => rw [none, bodyOf]
  · next given => exact bodyOf_of_ne_null given

/-- A backend that sends every body back. -/
def echo : Client Unit where
  base := ⟨"https".toList, [], "api.test".toList, none, ['/'], none, none⟩
  headers := []
  answer request _ := (.response ⟨201, [("Content-Type", "application/json")], request.body⟩, ())

/-- Without a coding a response is as it was before it was packed. -/
theorem Response.unpacked_of_no_coding {response : Response}
    (noCoding : response.headers.get? "content-encoding" = none) :
    response.unpacked = .ok response := by
  rw [unpacked, noCoding]
  rfl

theorem echo_echoes : echo.Echoes := by
  intro request backend
  have ascii : Headers.checkAscii [("Content-Type", "application/json")] = .ok () := by
    decide +kernel
  have noCoding :
      Headers.get? [("Content-Type", "application/json")] "content-encoding" = none := by
    decide +kernel
  exact ⟨_, _, rfl, rfl, ascii, Response.unpacked_of_no_coding noCoding⟩

/-- Names outside ASCII, and control characters in texts, come back in their order. -/
theorem bodies_come_back_nested :
    let value : Json := .obj [("né", .arr [.int (-7), .str "a\x00\n", .null]), ("a", .obj [])]
    value.IsPlain ∧ (echo.request ⟨"post", "/x", value, none⟩ (.start ())).1 = .ok value := by
  intro value
  have plain : value.IsPlain := by
    refine .obj (by simp [Json.Fields.Distinct]) ?_
    simp only [List.forall_mem_cons, List.not_mem_nil, false_imp_iff, implies_true, and_true]
    refine ⟨.arr ?_, .obj (by simp [Json.Fields.Distinct]) (by simp)⟩
    simp only [List.forall_mem_cons, List.not_mem_nil, false_imp_iff, implies_true, and_true]
    exact ⟨.int (by decide +kernel), .str _, .null⟩
  have filed : echo.filedAt ⟨"post", "/x", value, none⟩ =
      .ok ⟨"https".toList, [], "api.test".toList, none, "/x".toList, none, none⟩ := by
    decide +kernel
  rcases ((bodies_come_back plain).2 echo echo_echoes ⟨"post", "/x", value, none⟩ (.start ())
    rfl).1 _ filed with ⟨request, after, _, _, came⟩
  exact ⟨plain, by rw [came]⟩

end Rulebook
