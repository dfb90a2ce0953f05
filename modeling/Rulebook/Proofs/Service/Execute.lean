import Mathlib
import Rulebook.Proofs.Json.Reach
import Rulebook.Proofs.Service.Update
import Rulebook.Proofs.Text.Trimming
import Rulebook.Proofs.Text.Utf8

/-!
# What firing a typed event sends

An event that is typed into a form has three texts. Without a type, or with a payload that is not
JSON, nothing is sent. Otherwise one request posts the type, the lead if one is typed, and the
payload unless it is `null`.

The payload is the part that goes wrong. A payload that counts as not filled in, such as zero or an
empty list, is left out as if it were `null`; and a payload that JSON text cannot hold, such as an
infinity, is refused after the form has been accepted. The body of the request says which of the
two payloads was sent, because a body without the last field ends where the other one goes on.
Payloads that cannot be read or sent for want of room or of bytes are left out: the text of the
payload is shallow, and no half of a surrogate pair stands alone in it.
-/

namespace Rulebook

/-- The body that an event is to have: its type, the lead unless it is blank, and the payload unless
it is `null`. -/
def typedEvent (type lead : List Char) (payload : Json) : Json :=
  .obj (("type", .str (String.ofList type)) ::
    (if lead = [] then [] else [("leadId", .str (String.ofList lead))]) ++
    (if payload = .null then [] else [("payload", payload)]))

namespace Client

variable {σ : Type}

/-- What firing a typed event is to do. -/
structure FiresTyped (client : Client σ) (typeText leadText payloadText : String)
    (session : Session σ) (result : Except Failure Json × Session σ) : Prop where
  /-- Without a type nothing is sent. -/
  untyped : Text.trim typeText.toList = [] →
    result.1 = .error (.missingTriggerType "Event type is required.") ∧
      result.2.sent = session.sent
  /-- With a payload that is not JSON nothing is sent. -/
  notJson : Text.trim typeText.toList ≠ [] →
    ∀ fault message, Json.parseTyped payloadText.toList = .error (fault, message) →
      result.1 = .error (.invalidJson .eventPayload (some "Payload JSON is invalid.")
        (.str "payload_text") .null (String.ofList message)) ∧
      result.2.sent = session.sent
  /-- Otherwise one request is posted, apart from those that follow a redirect. -/
  posted : Text.trim typeText.toList ≠ [] →
    ∀ payload, Json.parseTyped payloadText.toList = .ok payload → ∃ request followUps,
      result.2.sent = session.sent ++ request :: followUps ∧
      (followUps ≠ [] → ∃ response, (client.answer request session.backend).1 =
        .response response ∧ response.location?.isSome = true) ∧
      request.method = "POST" ∧ client.address "/automations/execute" = .ok request.url ∧
      request.body = bodyOf (typedEvent (Text.trim typeText.toList) (Text.trim leadText.toList)
        payload)

end Client

/-! ## Bodies -/

theorem Json.writeFields_append (layout : Layout) (level : Nat) (fields more : Fields) :
    writeFields layout level (fields ++ more) =
      writeFields layout level fields ++ writeFields layout level more := by
  induction fields with
  | nil => rfl
  | cons first rest ih =>
      rcases first with ⟨name, value⟩
      simp only [List.cons_append, writeFields, ih, List.append_assoc]

/-- The bodies of an object with more and more fields begin alike. -/
theorem exists_bodyOf_append (first : String × Json) (fields : Json.Fields) :
    ∃ front, ∀ more, bodyOf (.obj (first :: fields ++ more)) =
      front ++ Text.utf8 (Json.writeFields Json.compact 1 more ++ ['\x7d']) := by
  rcases first with ⟨name, value⟩
  refine ⟨Text.utf8 ('\x7b' :: (Json.literal false name.toList ++ ':' ::
    (Json.write Json.compact 1 value ++ Json.writeFields Json.compact 1 fields))), fun more => ?_⟩
  rw [← Text.utf8_append]
  simp [bodyOf, Json.print, Json.write, Json.writeFields_append, Json.compact, Json.lineBreak]

/-- An object with one more field has another body. -/
theorem bodyOf_ne_append (first : String × Json) (fields : Json.Fields) (last : String × Json) :
    bodyOf (.obj (first :: fields)) ≠ bodyOf (.obj (first :: fields ++ [last])) := by
  rcases exists_bodyOf_append first fields with ⟨front, bodies⟩
  have short := bodies []
  rw [List.append_nil] at short
  rw [short, bodies [last], ne_eq, List.append_cancel_left_eq]
  -- Where the one body closes, the other one has a comma.
  simp [Json.writeFields, Json.compact, Json.lineBreak, Text.utf8, Text.utf8Char]

theorem isFinite_typedEvent {type lead : List Char} {payload : Json} :
    (typedEvent type lead payload).isFinite = payload.isFinite := by
  by_cases blank : lead = [] <;> by_cases none : payload = .null <;>
    simp [typedEvent, blank, none, Json.isFinite, Json.fieldsFinite]

/-- Only a payload other than `null` is seen to be missing. -/
theorem bodyOf_typedEvent_null_eq_iff {type lead : List Char} {payload : Json} :
    bodyOf (typedEvent type lead .null) = bodyOf (typedEvent type lead payload) ↔
      payload = .null := by
  by_cases none : payload = .null
  · simp [none]
  · simp only [none, iff_false, typedEvent, if_true, if_false, List.append_nil]
    exact bodyOf_ne_append _ _ _

namespace Client

variable {σ : Type} {client : Client σ}

/-! ## Requests -/

theorem before_turn (client : Client σ) (candidate : Candidate) (backend : σ) :
    (client.turn candidate backend).before = backend := by
  rw [turn]
  cases client.compose candidate <;> rfl

/-- A post carries a body exactly if it has an address and its own body can be written and looks the
same. -/
theorem posts_iff {route : String} {body expected : Json} {backend : σ} :
    (∃ request followUps,
      (client.turn ⟨"post", route, body, none⟩ backend).requests = request :: followUps ∧
      (followUps ≠ [] → ∃ response, (client.answer request backend).1 = .response response ∧
        response.location?.isSome = true) ∧
      request.method = "POST" ∧ client.address route = .ok request.url ∧
      request.body = bodyOf expected) ↔
    body.isFinite = true ∧ (∃ url, client.address route = .ok url) ∧
      bodyOf body = bodyOf expected := by
  constructor
  · rintro ⟨request, followUps, sent, _, _, _, same⟩
    have filled : (client.turn ⟨"post", route, body, none⟩ backend).requests ≠ [] :=
      sent ▸ List.cons_ne_nil _ _
    rcases requests_turn_ne_nil_iff.mp filled with ⟨finite, located⟩
    rcases isSentOnce_of_requests filled with ⟨_, _, composed, requests, _⟩
    rw [candidate_turn] at composed
    rcases compose_eq_ok_iff.mp composed with ⟨_, _, _, rfl⟩
    cases sent.symm.trans requests
    exact ⟨finite, located, same⟩
  · rintro ⟨finite, located, same⟩
    have filled : (client.turn ⟨"post", route, body, none⟩ backend).requests ≠ [] :=
      requests_turn_ne_nil_iff.mpr ⟨finite, located⟩
    rcases isSentOnce_of_requests filled with ⟨_, followUps, composed, requests, redirected⟩
    rw [candidate_turn] at composed
    rw [before_turn] at redirected
    rcases compose_eq_ok_iff.mp composed with ⟨_, url, address, rfl⟩
    exact ⟨_, followUps, requests, redirected, rfl, address, same⟩

section Typed

variable {typeText leadText payloadText : String} {session : Session σ}

theorem executeTyped_of_untyped (untyped : Text.trim typeText.toList = []) :
    client.executeTyped (.str typeText) (.str leadText) (.str payloadText) session =
      (.error (.missingTriggerType "Event type is required."), session) := by
  simp [executeTyped, Json.trimmedText_str, untyped]

theorem executeTyped_of_notJson (typed : Text.trim typeText.toList ≠ []) {fault : Json.Fault}
    {message : List Char}
    (failed : Json.parseTyped payloadText.toList = .error (fault, message)) :
    client.executeTyped (.str typeText) (.str leadText) (.str payloadText) session =
      (.error (.invalidJson .eventPayload (some "Payload JSON is invalid.") (.str "payload_text")
        .null (String.ofList message)), session) := by
  simp [executeTyped, Json.trimmedText_str, Json.filledText_str, typed, failed]

/-- What is sent has the payload if this counts as filled in, and none otherwise. -/
theorem executeTyped_of_payload (typed : Text.trim typeText.toList ≠ []) {payload : Json}
    (parsed : Json.parseTyped payloadText.toList = .ok payload) :
    client.executeTyped (.str typeText) (.str leadText) (.str payloadText) session =
      client.request ⟨"post", executeRoute,
        typedEvent (Text.trim typeText.toList) (Text.trim leadText.toList)
          (if payload.isTruthy then payload else .null), none⟩ session := by
  cases lead : Text.trim leadText.toList <;>
    simp [executeTyped, Json.trimmedText_str, Json.filledText_str, typed, parsed, execute,
      eventBody, typedEvent, lead]

/-- A payload that is kept counts as filled in or is `null`. -/
theorem posts_payload_iff {type lead : List Char} {payload : Json} :
    ((if payload.isTruthy then payload else .null).isFinite = true ∧
      (∃ url, client.address executeRoute = .ok url) ∧
      bodyOf (typedEvent type lead (if payload.isTruthy then payload else .null)) =
        bodyOf (typedEvent type lead payload)) ↔
    (payload = .null ∨ payload.isTruthy = true ∧ payload.isFinite = true) ∧
      ∃ url, client.address executeRoute = .ok url := by
  by_cases truthy : payload.isTruthy = true
  · have filled : payload ≠ .null := by
      rintro rfl
      cases truthy
    simp [truthy, filled]
  · simp only [truthy, Bool.false_eq_true, if_false, false_and, or_false,
      bodyOf_typedEvent_null_eq_iff]
    simp [Json.isFinite, and_comm]

/-- The payload that was typed is posted exactly if it is `null`, or counts as filled in and can be
written, and the route has an address. -/
theorem executeTyped_posts_iff (typed : Text.trim typeText.toList ≠ []) {payload : Json}
    (parsed : Json.parseTyped payloadText.toList = .ok payload) :
    (∃ request followUps,
      (client.executeTyped (.str typeText) (.str leadText) (.str payloadText) session).2.sent =
        session.sent ++ request :: followUps ∧
      (followUps ≠ [] → ∃ response, (client.answer request session.backend).1 =
        .response response ∧ response.location?.isSome = true) ∧
      request.method = "POST" ∧ client.address "/automations/execute" = .ok request.url ∧
      request.body = bodyOf (typedEvent (Text.trim typeText.toList)
        (Text.trim leadText.toList) payload)) ↔
    (payload = .null ∨ payload.isTruthy = true ∧ payload.isFinite = true) ∧
      ∃ url, client.address "/automations/execute" = .ok url := by
  rw [executeTyped_of_payload typed parsed, request_eq]
  simp only [Session.advance, List.append_cancel_left_eq]
  rw [← executeRoute, posts_iff, isFinite_typedEvent, posts_payload_iff]

end Typed

/-- Where the text of the payload is within reach, firing a typed event does what it is to do
exactly if a payload that is JSON is `null`, or counts as filled in and holds only numbers that
JSON has, and the route has an address. -/
theorem firesTyped_iff {σ : Type} (client : Client σ) (typeText leadText payloadText : String)
    (session : Session σ) :
    Json.IsShallow payloadText.toList → Json.HasWholePairs payloadText.toList →
      (client.FiresTyped typeText leadText payloadText session
          (client.executeTyped (.str typeText) (.str leadText) (.str payloadText) session) ↔
        (Text.trim typeText.toList ≠ [] →
          ∀ payload, Json.parseTyped payloadText.toList = .ok payload →
            (payload = .null ∨ payload.isTruthy = true ∧ payload.isFinite = true) ∧
            ∃ url, client.address "/automations/execute" = .ok url)) := by
  intro _ _
  constructor
  · intro fires typed payload parsed
    exact (executeTyped_posts_iff typed parsed).mp (fires.posted typed payload parsed)
  · intro kept
    refine ⟨?_, ?_, ?_⟩
    · intro untyped
      rw [executeTyped_of_untyped untyped]
      exact ⟨rfl, rfl⟩
    · intro typed fault message failed
      rw [executeTyped_of_notJson typed failed]
      exact ⟨rfl, rfl⟩
    · intro typed payload parsed
      exact (executeTyped_posts_iff typed parsed).mpr (kept typed payload parsed)

/-- A payload that holds something is sent as it is. -/
theorem firesTyped_campaign :
    let result := creatingOnly.executeTyped (.str " lead_created ") (.str "l1")
      (.str "[0, null]") (.start ())
    result.2.sent.map (fun request => (request.method, String.ofList request.url.path,
        request.body)) =
      [("POST", "/automations/execute", bodyOf (.obj [("type", .str "lead_created"),
        ("leadId", .str "l1"), ("payload", .arr [.int 0, .null])]))] ∧
      creatingOnly.FiresTyped " lead_created " "l1" "[0, null]" (.start ()) result := by
  intro result
  refine ⟨by decide +kernel, ?_⟩
  apply (firesTyped_iff creatingOnly " lead_created " "l1" "[0, null]" (.start ())
    (by decide +kernel) (by decide +kernel)).mpr
  intro _ payload parsed
  have list : Json.parseTyped "[0, null]".toList = .ok (.arr [.int 0, .null]) := by
    decide +kernel
  cases list.symm.trans parsed
  have located : creatingOnly.address "/automations/execute" =
      .ok ⟨"https".toList, [], "api.test".toList, none, "/automations/execute".toList, none,
        none⟩ := by
    decide +kernel
  exact ⟨Or.inr ⟨rfl, rfl⟩, _, located⟩

/-- An empty object is a payload, but it is left out. -/
theorem not_firesTyped_emptyPayload :
    let result := creatingOnly.executeTyped (.str "custom") (.str "") (.str "\x7b\x7d") (.start ())
    Json.parseTyped "\x7b\x7d".toList = .ok (.obj []) ∧
      result.2.sent.map (fun request => (request.method, String.ofList request.url.path,
          request.body)) =
        [("POST", "/automations/execute", bodyOf (.obj [("type", .str "custom")]))] ∧
      ¬creatingOnly.FiresTyped "custom" "" "\x7b\x7d" (.start ()) result := by
  intro result
  have empty : Json.parseTyped "\x7b\x7d".toList = .ok (.obj []) := by decide +kernel
  refine ⟨empty, by decide +kernel, fun fires => ?_⟩
  have typed : Text.trim "custom".toList ≠ [] := by decide
  have kept := (executeTyped_posts_iff typed empty).mp (fires.posted typed (.obj []) empty)
  rcases kept.1 with none | ⟨filled, _⟩
  · cases none
  · cases filled

end Client

end Rulebook
