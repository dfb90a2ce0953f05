import Mathlib
import Rulebook.Envelope
import Rulebook.Proofs.Json.Fields

/-!
# Envelopes around the listing of providers

An envelope is an object with a value under `data` and, beside it, fields that only describe the
response. The listing of providers that is found in an envelope is the one that is found in the
value itself, whichever shape the value has, so any number of envelopes may lie around it.

The value may also stand under `result` or `payload`. Such an envelope gives the listing of the
value only where there is one: `data` is never the name of a provider, but `result` and `payload`
may be, and where nothing is found in the value, it is taken for a provider of that name itself.
-/

namespace Rulebook

/-- The listing in an object, by the first of the places that holds one. -/
theorem normalizeIntegrations_obj (fields : Json.Fields) :
    normalizeIntegrations (.obj fields) =
      match firstList? providerListKeys fields with
      | some items => items
      | none =>
          match firstList? providerListKeys (Json.Fields.get fields "data").fields with
          | some items => items
          | none =>
              match innerEnvelope? fields with
              | none => providersOfFields fields
              | some inner =>
                  match normalizeIntegrations inner with
                  | [] => providersOfFields fields
                  | first :: rest => first :: rest := by
  rw [normalizeIntegrations]
  cases firstList? providerListKeys fields with
  | some items => rfl
  | none =>
      cases firstList? providerListKeys (Json.Fields.get fields "data").fields with
      | some items => rfl
      | none =>
          simp only
          split
          · next noInner => rw [noInner]
          · next inner found =>
            generalize innerEnvelope? fields = held at found ⊢
            subst found
            rfl

/-- The items of a list; other values have none. -/
def Json.items? : Json → Option (List Json)
  | arr items => some items
  | _ => none

/-- The keys of an envelope that describe the response. -/
def noteKeys : List String :=
  ["success", "message", "error", "errors", "status", "code", "meta", "pagination", "page",
    "limit", "total"]

/-- An object holds a value under `data`, and its other fields describe the response. The fields may
come in any order. -/
structure IsEnvelope (inner : Json) (fields : Json.Fields) : Prop where
  held : fields.get? "data" = some inner
  notes : ∀ field ∈ fields, field.1 = "data" ∨ field.1 ∈ noteKeys

/-- An object whose fields all describe the response, but for those under one key, has nothing under
any further key. -/
theorem get_eq_null_of_notes {key : String} {fields : Json.Fields}
    (notes : ∀ field ∈ fields, field.1 = key ∨ field.1 ∈ noteKeys) {other : String}
    (different : other ≠ key) (noNote : other ∉ noteKeys) : fields.get other = .null := by
  have absent : fields.get? other = none := by
    apply Json.Fields.get?_eq_none_iff.mpr
    intro value mem
    rcases notes _ mem with isKey | isNote
    · exact different isKey
    · exact noNote isNote
  simp [Json.Fields.get, absent]

theorem providersOfFields_eq_nil_of_mem {fields : Json.Fields}
    (described : ∀ field ∈ fields, field.1 ∈ responseKeys) : providersOfFields fields = [] := by
  rw [providersOfFields, List.filterMap_eq_nil_iff]
  intro field mem
  exact if_pos (Or.inl (described field mem))

namespace IsEnvelope

variable {inner : Json} {fields : Json.Fields}

theorem get_data (envelope : IsEnvelope inner fields) : fields.get "data" = inner := by
  rw [Json.Fields.get, envelope.held]
  rfl

/-- An envelope has nothing under a key that neither is `data` nor describes the response. -/
theorem get_eq_null (envelope : IsEnvelope inner fields) {key : String} (notData : key ≠ "data")
    (noNote : key ∉ noteKeys) : fields.get key = .null :=
  get_eq_null_of_notes envelope.notes notData noNote

/-- The only list that an envelope can have under a key of providers is the value itself. -/
theorem firstList?_eq (envelope : IsEnvelope inner fields) :
    firstList? providerListKeys fields = inner.items? := by
  have absent (key : String) (notData : key ≠ "data") (noNote : key ∉ noteKeys) :=
    envelope.get_eq_null notData noNote
  simp only [firstList?, providerListKeys, List.findSome?_cons, List.findSome?_nil,
    envelope.get_data, absent "items" (by decide) (by decide),
    absent "results" (by decide) (by decide), absent "providers" (by decide) (by decide),
    absent "integrations" (by decide) (by decide), absent "list" (by decide) (by decide)]
  cases inner <;> rfl

/-- The next envelope is the value, if there is one. -/
theorem innerEnvelope?_eq (envelope : IsEnvelope inner fields) :
    innerEnvelope? fields = if inner = .null then none else some inner := by
  by_cases isNull : inner = .null
  · have result : fields.get "result" = .null := envelope.get_eq_null (by decide) (by decide)
    have payload : fields.get "payload" = .null := envelope.get_eq_null (by decide) (by decide)
    simp [innerEnvelope?, envelopeKeys, envelope.get_data, result, payload, isNull]
  · simp [innerEnvelope?, envelopeKeys, envelope.get_data, envelope.held, isNull]

/-- No field of an envelope is taken for a provider. -/
theorem providersOfFields_eq_nil (envelope : IsEnvelope inner fields) :
    providersOfFields fields = [] := by
  apply providersOfFields_eq_nil_of_mem
  intro field mem
  rcases envelope.notes field mem with isData | isNote
  · rw [isData]
    decide
  · exact List.mem_append_left providerListKeys isNote

/-- One envelope does not change the listing. -/
theorem normalizeIntegrations_eq (envelope : IsEnvelope inner fields) :
    normalizeIntegrations (.obj fields) = normalizeIntegrations inner := by
  have data := envelope.get_data
  have listed := envelope.firstList?_eq
  have next := envelope.innerEnvelope?_eq
  have noProviders := envelope.providersOfFields_eq_nil
  -- what is found in the value is found again, and where nothing is found there are no providers
  have again (isValue : inner ≠ .null) (noList : firstList? providerListKeys fields = none)
      (deeper : firstList? providerListKeys inner.fields = none) :
      normalizeIntegrations (.obj fields) = normalizeIntegrations inner := by
    rw [if_neg isValue] at next
    simp only [normalizeIntegrations_obj, noList, data, deeper, next, noProviders]
    cases normalizeIntegrations inner <;> rfl
  cases inner with
  | null =>
      have deeper : firstList? providerListKeys Json.null.fields = none := rfl
      simp only [normalizeIntegrations_obj, listed, Json.items?, data, deeper, next, noProviders,
        normalizeIntegrations, if_true]
  | arr items => simp only [normalizeIntegrations_obj, listed, Json.items?, normalizeIntegrations]
  | obj innerFields =>
      cases found : firstList? providerListKeys innerFields with
      | some items =>
          simp only [normalizeIntegrations_obj, listed, Json.items?, data, Json.fields, found]
      | none => exact again (by simp) listed found
  | bool _ => exact again (by simp) listed rfl
  | int _ => exact again (by simp) listed rfl
  | real _ => exact again (by simp) listed rfl
  | str _ => exact again (by simp) listed rfl

end IsEnvelope

/-- An object holds a value under a key, and its other fields describe the response. The fields may
come in any order. -/
structure IsEnvelopeUnder (key : String) (inner : Json) (fields : Json.Fields) : Prop where
  held : fields.get? key = some inner
  notes : ∀ field ∈ fields, field.1 = key ∨ field.1 ∈ noteKeys
  distinct : fields.Distinct

namespace IsEnvelopeUnder

variable {key : String} {inner : Json} {fields : Json.Fields}

theorem get_key (envelope : IsEnvelopeUnder key inner fields) : fields.get key = inner := by
  simp [Json.Fields.get, envelope.held]

theorem firstList?_eq_none (envelope : IsEnvelopeUnder key inner fields)
    (notList : key ∉ providerListKeys) : firstList? providerListKeys fields = none := by
  rw [firstList?, List.findSome?_eq_none_iff]
  intro other listed
  have different : other ≠ key := by
    rintro rfl
    exact notList listed
  have noNote : other ∉ noteKeys := by
    revert other
    simp [providerListKeys, noteKeys]
  simp [get_eq_null_of_notes envelope.notes different noNote]

/-- The fields before and behind the value describe the response. -/
theorem exists_eq_append (envelope : IsEnvelopeUnder key inner fields) :
    ∃ before after, fields = before ++ (key, inner) :: after ∧
      (∀ field ∈ before, field.1 ∈ noteKeys) ∧ ∀ field ∈ after, field.1 ∈ noteKeys := by
  rcases List.append_of_mem (Json.Fields.mem_of_get? envelope.held) with ⟨before, after, rfl⟩
  have once : key ∉ (before ++ after).map Prod.fst := by
    have distinct := envelope.distinct
    rw [Json.Fields.Distinct, List.map_append, List.map_cons, List.nodup_middle,
      List.nodup_cons, ← List.map_append] at distinct
    exact distinct.1
  refine ⟨before, after, rfl, ?_, ?_⟩
  · intro field mem
    apply (envelope.notes field (by simp [mem])).resolve_left
    rintro rfl
    exact once (List.mem_map_of_mem (List.mem_append_left after mem))
  · intro field mem
    apply (envelope.notes field (by simp [mem])).resolve_left
    rintro rfl
    exact once (List.mem_map_of_mem (List.mem_append_right before mem))

/-- The value is the only field that can be taken for a provider. -/
theorem providersOfFields_eq (envelope : IsEnvelopeUnder key inner fields)
    (noResponseKey : key ∉ responseKeys) :
    providersOfFields fields = if inner = .null then [] else [providerOfField key inner] := by
  rcases envelope.exists_eq_append with ⟨before, after, rfl, notesBefore, notesAfter⟩
  have noneOf {notes : Json.Fields} (each : ∀ field ∈ notes, field.1 ∈ noteKeys) :
      providersOfFields notes = [] := by
    apply providersOfFields_eq_nil_of_mem
    intro field mem
    exact List.mem_append_left providerListKeys (each field mem)
  have noneBefore := noneOf notesBefore
  have noneAfter := noneOf notesAfter
  rw [providersOfFields] at noneBefore noneAfter
  by_cases isNull : inner = .null <;>
    simp [providersOfFields, noneBefore, noneAfter, noResponseKey, isNull]

variable (wrapper : key = "result" ∨ key = "payload")
include wrapper

theorem get_data (envelope : IsEnvelopeUnder key inner fields) : fields.get "data" = .null := by
  apply get_eq_null_of_notes envelope.notes
  · rcases wrapper with rfl | rfl <;> simp
  · simp [noteKeys]

/-- The next envelope is the value, if there is one. -/
theorem innerEnvelope?_eq (envelope : IsEnvelopeUnder key inner fields) :
    innerEnvelope? fields = if inner = .null then none else some inner := by
  have noData := envelope.get_data wrapper
  have held := envelope.held
  have value := envelope.get_key
  rcases wrapper with rfl | rfl
  · have noPayload : fields.get "payload" = .null := by
      apply get_eq_null_of_notes envelope.notes <;> simp [noteKeys]
    by_cases isNull : inner = .null <;>
      simp [innerEnvelope?, envelopeKeys, noData, noPayload, value, held, isNull]
  · have noResult : fields.get "result" = .null := by
      apply get_eq_null_of_notes envelope.notes <;> simp [noteKeys]
    by_cases isNull : inner = .null <;>
      simp [innerEnvelope?, envelopeKeys, noData, noResult, value, held, isNull]

/-- What is found in the value is found in the envelope, and where nothing is, the value is taken
for a provider. -/
theorem normalizeIntegrations_eq (envelope : IsEnvelopeUnder key inner fields) :
    normalizeIntegrations (.obj fields) =
      if normalizeIntegrations inner = [] ∧ inner ≠ .null then [providerOfField key inner]
      else normalizeIntegrations inner := by
  have notList : key ∉ providerListKeys := by
    rcases wrapper with rfl | rfl <;> simp [providerListKeys]
  have noResponseKey : key ∉ responseKeys := by
    rcases wrapper with rfl | rfl <;> simp [responseKeys, providerListKeys]
  have noInnerList : firstList? providerListKeys Json.null.fields = none := rfl
  simp only [normalizeIntegrations_obj, envelope.firstList?_eq_none notList,
    envelope.get_data wrapper, noInnerList, envelope.innerEnvelope?_eq wrapper,
    envelope.providersOfFields_eq noResponseKey]
  by_cases isNull : inner = .null
  · simp [isNull, normalizeIntegrations]
  · simp only [isNull, if_false]
    cases normalizeIntegrations inner <;> simp [isNull]

end IsEnvelopeUnder

/-- An envelope under `result` or `payload` gives the listing of its value exactly if that is not
empty or there is no value. Otherwise the one provider in it is the value, under the name of the
key. -/
theorem normalizeIntegrations_under_eq_iff {key : String} {inner : Json} {fields : Json.Fields}
    (wrapper : key = "result" ∨ key = "payload") (envelope : IsEnvelopeUnder key inner fields) :
    (normalizeIntegrations (.obj fields) = normalizeIntegrations inner ↔
        normalizeIntegrations inner ≠ [] ∨ inner = .null) ∧
      (normalizeIntegrations inner = [] → inner ≠ .null →
        normalizeIntegrations (.obj fields) = [providerOfField key inner]) := by
  rw [envelope.normalizeIntegrations_eq wrapper]
  by_cases mistaken : normalizeIntegrations inner = [] ∧ inner ≠ .null
  · rw [if_pos mistaken]
    simp [mistaken.1, mistaken.2]
  · rw [if_neg mistaken]
    rw [not_and_or, not_not] at mistaken
    refine ⟨iff_of_true rfl mistaken, ?_⟩
    intro empty isValue
    exact absurd mistaken (by simp [empty, isValue])

/-- A listing of two providers under `payload`. -/
theorem normalizeIntegrations_under_eq_iff_twoProviders :
    let providers : Json := .obj [("hubspot", .obj [("connected", .bool true)]), ("meta", .int 1),
      ("slack", .str "pending")]
    let fields : Json.Fields := [("success", .bool true), ("payload", providers)]
    IsEnvelopeUnder "payload" providers fields ∧
      normalizeIntegrations (.obj fields) = normalizeIntegrations providers ∧
      normalizeIntegrations providers =
        [.obj [("key", .str "hubspot"), ("connected", .bool true)],
          .obj [("key", .str "slack"), ("value", .str "pending")]] := by
  intro providers fields
  have envelope : IsEnvelopeUnder "payload" providers fields := by
    refine ⟨rfl, ?_, ?_⟩
    · simp [fields, noteKeys]
    · simp [fields, Json.Fields.Distinct]
  have listed : normalizeIntegrations providers =
      [.obj [("key", .str "hubspot"), ("connected", .bool true)],
        .obj [("key", .str "slack"), ("value", .str "pending")]] := by
    rw [normalizeIntegrations_obj]
    rfl
  have found : normalizeIntegrations providers ≠ [] := by
    simp [listed]
  have same := (normalizeIntegrations_under_eq_iff (Or.inr rfl) envelope).1.mpr (Or.inl found)
  exact ⟨envelope, same, listed⟩

/-- An empty listing under `result` is taken for a provider of that name. -/
theorem normalizeIntegrations_result_ne :
    IsEnvelopeUnder "result" (.arr []) [("result", .arr [])] ∧
      normalizeIntegrations (.obj [("result", .arr [])]) =
        [.obj [("key", .str "result"), ("value", .arr [])]] ∧
      normalizeIntegrations (.obj [("result", .arr [])]) ≠ normalizeIntegrations (.arr []) := by
  have envelope : IsEnvelopeUnder "result" (.arr []) [("result", .arr [])] := by
    refine ⟨rfl, ?_, ?_⟩
    · simp
    · simp [Json.Fields.Distinct]
  have mistaken : normalizeIntegrations (.obj [("result", .arr [])]) =
      [.obj [("key", .str "result"), ("value", .arr [])]] := by
    rw [envelope.normalizeIntegrations_eq (Or.inl rfl)]
    simp [normalizeIntegrations, providerOfField]
  refine ⟨envelope, mistaken, ?_⟩
  rw [mistaken]
  simp [normalizeIntegrations]

end Rulebook
