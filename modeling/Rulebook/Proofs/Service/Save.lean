import Mathlib
import Rulebook.Proofs.Compile.Conformance
import Rulebook.Proofs.Service.Update

/-!
# What saving a draft sends

A draft that does not compile sends nothing. A draft that compiles has a payload of four fields that
is that of a whole rule, so a new rule is posted to the collection, and a rule that has an id is
updated by three candidates that all carry the same payload. Something is sent exactly if the first
route has an address: an id can be too long for one. This takes a payload that can be written down
in bytes, without numbers that JSON does not have and without half surrogate pairs, and with room
for its nesting.
-/

namespace Rulebook

/-! ## Payloads of compiled rules -/

theorem Trigger.exists_toPayload {trigger : Trigger} (conditions : trigger.conditions.AreConditions) :
    ∃ fields : Json.Fields, trigger.toPayload = .ok (.obj fields) ∧ fields ≠ [] := by
  rw [toPayload]
  rcases conditions with none | ⟨fields, held, filled, _, _⟩
  · rw [none]
    exact ⟨_, rfl, List.cons_ne_nil _ _⟩
  · have truthy : (Json.obj fields).isTruthy = true := by
      simpa [Json.isTruthy] using filled
    rw [held, if_pos truthy]
    exact ⟨_, rfl, List.cons_ne_nil _ _⟩

/-- The payload of a canonical rule is that of a whole rule, and nothing of it is left out when a
rule is created from it. -/
theorem Rule.IsCanonical.exists_payloadFields {rule : Rule} (canonical : rule.IsCanonical) :
    ∃ payload, rule.payloadFields = .ok payload ∧ IsWholeRule payload ∧
      creationFields payload = payload := by
  rcases Trigger.exists_toPayload canonical.conditions with ⟨fields, written, filled⟩
  rcases canonical.name with ⟨name, held, tidy⟩
  rw [payloadFields, written]
  refine ⟨_, rfl, ⟨⟨name, by rw [← held]; rfl, by rw [tidy.2]; exact tidy.1⟩, ?_, _, rfl⟩, rfl⟩
  simpa [Json.Fields.get, Json.Fields.get?, List.lookup, Json.isTruthy] using filled

/-! ## Identities -/

/-- The identity of a draft goes to its rule and has no other say in compiling. -/
theorem Draft.compile_identified (draft : Draft) (id : Json) :
    ({ draft with id := id } : Draft).compile =
      draft.compile.map fun rule => { rule with id := id } := by
  have sameParams : ({ draft with id := id } : Draft).compileTriggerParams =
      draft.compileTriggerParams := rfl
  simp only [compile, sameParams]
  split
  · rfl
  split
  · rfl
  cases draft.compileTriggerParams with
  | error failure => rfl
  | ok params =>
      cases compileConditions draft.conditions with
      | error failure => rfl
      | ok conditions =>
          cases compileActions draft.actions with
          | error failure => rfl
          | ok actions => cases actions <;> rfl

/-! ## Saving -/

namespace Client

variable {σ : Type}

/-- The turns in which candidates are issued are those that saving a rule is to take. -/
structure Saves (client : Client σ) (rule : Rule) (body : Json) (session : Session σ)
    (issued : List (Turn σ)) (result : Except Failure Json × Session σ) : Prop where
  /-- The backend receives the requests of these turns, in order, and no others. -/
  sent : result.2.sent = session.sent ++ issued.flatMap Turn.requests
  /-- Every candidate is sent once, apart from redirects. -/
  once : ∀ turn ∈ issued, client.IsSentOnce turn
  /-- A rule without an id has one candidate. -/
  fresh : rule.id.isTruthy = false →
    issued <+: client.turns [⟨"post", rulesRoute, body, none⟩] session.backend
  /-- A rule with an id has three, with the same body. -/
  known : rule.id.isTruthy = true → issued <+: client.turns
    [⟨"patch", ruleRoute rule.id, body, none⟩, ⟨"post", ruleRoute rule.id, body, none⟩,
      ⟨"post", rulesRoute, body, none⟩] session.backend
  /-- Candidates are issued exactly if the first route has an address. -/
  reached : issued ≠ [] ↔ ∃ url,
    client.address (if rule.id.isTruthy then ruleRoute rule.id else rulesRoute) = .ok url

section Saving

variable {client : Client σ} {draft : Draft} {rule : Rule} {payload : Json.Fields}
  {session : Session σ}

/-- Saving writes to the log, compiles the draft, and then updates or creates the rule. -/
theorem saveDraft_eq (client : Client σ) (draft : Draft) (session : Session σ) :
    ∃ log, client.saveDraft draft session =
      match draft.compile with
      | .error failure => (.error failure, { session with log := log })
      | .ok rule =>
          match rule.payloadFields with
          | .error failure => (.error failure, { session with log := log })
          | .ok payload =>
              if rule.id.isTruthy then client.updateRule rule.id payload { session with log := log }
              else client.createRule payload { session with log := log } := by
  have noted : ∀ (kinds : List (List Char)) (note : List Char → List Char) (session : Session σ),
      ∃ log, kinds.foldl (fun session kind => session.record .debug (note kind)) session =
        { session with log := log } := by
    intro kinds note session
    induction kinds generalizing session with
    | nil => exact ⟨session.log, rfl⟩
    | cons kind kinds ih => exact ih (session.record .debug (note kind))
  rcases noted draft.passedKinds
      (fun kind => "Passing through unknown action kind ".toList ++ Text.quoted kind) session with
    ⟨log, passed⟩
  refine ⟨log, ?_⟩
  unfold saveDraft
  cases draft.compile with
  | error failure => simp only [passed]
  | ok rule =>
      simp only
      cases rule.payloadFields with
      | error failure => simp only [passed]
      | ok payload => simp only [passed]

/-- An update from the payload of a whole rule sends it with every candidate. -/
theorem saves_updateRule (known : rule.id.isTruthy = true) (whole : IsWholeRule payload)
    (complete : creationFields payload = payload) (finite : (Json.obj payload).isFinite = true)
    (log : List LogRecord) :
    client.Saves rule (.obj payload) session
      (client.issued fallbackStatuses (updateCandidates rule.id payload) session.backend)
      (client.updateRule rule.id payload { session with log := log }) where
  sent := sent_resolve
  once := isSentOnce_of_mem_issued
  fresh := by simp [known]
  known := by
    intro _
    have candidates := @updateCandidates_of_isWholeRule rule.id payload whole
    rw [complete] at candidates
    rw [← candidates]
    exact issued_begins _ _
  reached := by
    rw [if_pos known, updateCandidates_eq, issued_ne_nil_iff, requests_turn_ne_nil_iff,
      and_iff_right finite]

theorem saves_createRule (fresh : rule.id.isTruthy = false) (whole : IsWholeRule payload)
    (complete : creationFields payload = payload) (finite : (Json.obj payload).isFinite = true)
    (log : List LogRecord) :
    client.Saves rule (.obj payload) session
      (client.issued fallbackStatuses [⟨"post", rulesRoute, .obj payload, none⟩] session.backend)
      (client.createRule payload { session with log := log }) where
  sent := by
    rw [createRule, creationBody_of_isWholeRule whole, complete, request_eq, flatMap_issued_cons]
    simp [Session.advance, Session.record]
  once := isSentOnce_of_mem_issued
  fresh := fun _ => issued_begins _ _
  known := by simp [fresh]
  reached := by
    rw [if_neg (by simp [fresh]), issued_ne_nil_iff, requests_turn_ne_nil_iff,
      and_iff_right finite]

/-- A rule whose id is too long for an address is not sent. -/
theorem sent_saveDraft_of_long (compiled : draft.compile = .ok rule)
    (known : rule.id.isTruthy = true) (long : Url.maxLength ≤ rule.id.display.length) :
    (client.saveDraft draft session).2.sent = session.sent := by
  rcases saveDraft_eq client draft session with ⟨log, saved⟩
  rcases (Draft.isCanonical_of_compile compiled).exists_payloadFields with ⟨payload, written, _, _⟩
  have unsent : client.issued fallbackStatuses (updateCandidates rule.id payload) session.backend =
      [] := by
    by_contra issuedSome
    rw [← ne_eq, updateCandidates_eq, issued_ne_nil_iff, requests_turn_ne_nil_iff,
      address_ruleRoute_of_long long] at issuedSome
    rcases issuedSome with ⟨_, _, located⟩
    cases located
  rw [saved, compiled]
  simp only [written, known, if_true]
  rw [updateRule, sent_resolve, unsent, List.flatMap_nil, List.append_nil]

end Saving

/-- Saving is all or nothing. A draft that does not compile leaves the backend alone. A draft that
compiles has a complete payload; if it can be written then nothing else is sent, to a new rule by
one candidate and to a known one by up to three, and something is sent exactly if the first route
has an address. The payload can be written if its numbers are finite, no half of a surrogate pair
stands alone in the JSON texts of the draft, and there is room for their nesting. -/
theorem saveDraft_sends {σ : Type} (client : Client σ) (draft : Draft) (session : Session σ) :
    (∀ failure, draft.compile = .error failure →
      (client.saveDraft draft session).1 = .error failure ∧
      (client.saveDraft draft session).2.sent = session.sent ∧
      (client.saveDraft draft session).2.backend = session.backend) ∧
    ∀ rule, draft.compile = .ok rule → ∃ payload, rule.toPayload = .ok (.obj payload) ∧
      isComplete payload = true ∧
      ((Json.obj payload).isFinite = true → draft.HasWholePairs → draft.IsShallow →
        ∃ issued, client.Saves rule (.obj payload) session issued
          (client.saveDraft draft session)) := by
  rcases saveDraft_eq client draft session with ⟨log, saved⟩
  constructor
  · intro failure failed
    rw [saved, failed]
    exact ⟨rfl, rfl, rfl⟩
  · intro rule compiled
    rcases (Draft.isCanonical_of_compile compiled).exists_payloadFields with
      ⟨payload, written, whole, complete⟩
    refine ⟨payload, by rw [Rule.toPayload, written]; rfl, isComplete_iff.mpr whole, ?_⟩
    intro finite _ _
    rw [saved, compiled]
    simp only [written]
    cases known : rule.id.isTruthy with
    | true => exact ⟨_, saves_updateRule known whole complete finite log⟩
    | false => exact ⟨_, saves_createRule known whole complete finite log⟩

end Client

/-- A draft of a rule with an id, with one action. -/
def Draft.conversion (id : Json) : Draft :=
  { Draft.fresh with
    id := id
    name := .str "Welcome"
    actions := [⟨.str "send_conversion", [], .null⟩] }

/-- The rule that `Draft.conversion` compiles to. -/
def Rule.conversion (id : Json) : Rule where
  id := id
  name := .str "Welcome"
  active := .bool true
  trigger := ⟨.str "lead_created", .null, .null⟩
  actions := [⟨.str "send_conversion", .obj []⟩]

theorem Draft.compile_conversion (id : Json) :
    (Draft.conversion id).compile = .ok (Rule.conversion id) := by
  have compiled : (Draft.conversion .null).compile = .ok (Rule.conversion .null) := by
    decide +kernel
  have identified := Draft.compile_identified (Draft.conversion .null) id
  rw [compiled] at identified
  exact identified

namespace Client

/-- A backend that only knows how to create rules takes the rule with the id 7 as the third
candidate, with the body of the first two. -/
theorem saves_conversion :
    let result := creatingOnly.saveDraft (Draft.conversion (.str "7")) (.start ())
    result.2.sent.map (fun request => (request.method, String.ofList request.url.path)) =
        [("PATCH", "/automations/7"), ("POST", "/automations/7"), ("POST", "/automations")] ∧
      ∃ payload issued, creatingOnly.Saves (Rule.conversion (.str "7")) (.obj payload) (.start ())
        issued result := by
  intro result
  refine ⟨by decide +kernel, ?_⟩
  rcases (saveDraft_sends creatingOnly (Draft.conversion (.str "7")) (.start ())).2 _
      (Draft.compile_conversion _) with ⟨payload, written, _, saves⟩
  have finite : (Json.obj payload).isFinite = true := by
    cases written
    decide +kernel
  exact ⟨payload, saves finite (by decide +kernel) (by decide +kernel)⟩

/-- A draft whose id is too long for an address compiles, but saving it sends nothing. -/
theorem unsent_conversion {text : List Char} (long : Url.maxLength ≤ text.length) :
    let id := Json.str (String.ofList text)
    let result := creatingOnly.saveDraft (Draft.conversion id) (.start ())
    (Draft.conversion id).compile = .ok (Rule.conversion id) ∧ id.isTruthy = true ∧
      (∃ payload, (Rule.conversion id).toPayload = .ok payload ∧ payload.isFinite = true) ∧
      result.2.sent = [] := by
  intro id result
  have known : id.isTruthy = true := by
    rw [Json.isTruthy, Bool.not_eq_true', ← Bool.not_eq_true, String.isEmpty_iff,
      ← String.toList_eq_nil_iff, String.toList_ofList]
    rintro rfl
    exact absurd long (by decide)
  have longDisplay : Url.maxLength ≤ id.display.length := by
    rwa [Json.display, String.toList_ofList]
  exact ⟨Draft.compile_conversion id, known, ⟨_, rfl, rfl⟩,
    sent_saveDraft_of_long (Draft.compile_conversion id) known longDisplay⟩

theorem unsent_conversion_of_replicate :
    let id := Json.str (String.ofList (List.replicate 65536 'x'))
    let result := creatingOnly.saveDraft (Draft.conversion id) (.start ())
    (Draft.conversion id).compile = .ok (Rule.conversion id) ∧ id.isTruthy = true ∧
      (∃ payload, (Rule.conversion id).toPayload = .ok payload ∧ payload.isFinite = true) ∧
      result.2.sent = [] :=
  unsent_conversion (List.length_replicate.symm.le)

end Client

end Rulebook
