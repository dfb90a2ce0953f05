import Mathlib
import Rulebook.Proofs.Compile.Overflow

/-!
# Drafts whose JSON texts can be read

The JSON texts are the one part of a draft that can be malformed. Where all of them can be read,
compiling fails only because something is missing, or because a number has more digits than are
converted. Which fields of an action hold JSON depends on its kind, but no field holds JSON for one
kind and anything else for another, so that the texts can be checked without looking at the kind.
-/

namespace Rulebook

/-- The text is blank or JSON. -/
def Json.IsReadable (text : List Char) : Prop :=
  ∃ value, parseTyped text = .ok value

/-- The fields of an action that hold JSON. -/
def Catalog.jsonFields : List String :=
  ["variables_text", "body_text", "conditions_text", unknownField]

/-- The JSON fields of the action can be read, also those that its kind does not have. -/
def ActionDraft.IsReadable (action : ActionDraft) : Prop :=
  ∀ field ∈ Catalog.jsonFields, Json.IsReadable (action.text field)

/-- All JSON texts of the draft can be read. -/
structure Draft.IsReadable (draft : Draft) : Prop where
  /-- The parameters of the event can be read. -/
  triggerParams : Json.IsReadable draft.triggerParams.filledText
  /-- So can the JSON fields of every action. -/
  actions : ∀ action ∈ draft.actions, action.IsReadable

namespace Failure

/-- The failure says that something is missing. -/
inductive IsOmission : Failure → Prop
  | name : IsOmission nameRequired
  | triggerType : IsOmission triggerTypeRequired
  | param (param kind localId : Json) : IsOmission (missingActionParam param kind localId)
  | action : IsOmission actionRequired

/-- The failure blames no JSON text: something is missing, or a number has more digits than are
converted. -/
inductive BlamesNoText : Failure → Prop
  | omission {failure : Failure} (missing : failure.IsOmission) : BlamesNoText failure
  | tooManyDigits (count : Nat) : BlamesNoText (tooManyDigits count)

theorem BlamesNoText.kind?_ne {failure : Failure} (blames : failure.BlamesNoText)
    (kind : JsonTextKind) : failure.kind? ≠ some (.invalidJson kind) := by
  cases blames with
  | omission missing =>
      cases missing <;> simp [kind?, nameRequired, triggerTypeRequired, actionRequired]
  | tooManyDigits count => simp [kind?]

end Failure

theorem Catalog.field_mem_jsonFields_iff :
    ∀ entry ∈ actionTypes, ∀ param ∈ entry.params,
      param.field ∈ jsonFields ↔ param.shape = .json := by
  decide

theorem Json.isReadable_nil : IsReadable [] :=
  ⟨.null, rfl⟩

theorem Json.IsReadable.not_isFaulty {text : List Char} (readable : IsReadable text)
    (message : List Char) : ¬IsFaulty text message := by
  rcases readable with ⟨value, read⟩
  rw [← parseTyped_eq_error_iff]
  rintro ⟨fault, failed⟩
  rw [read] at failed
  cases failed

/-! ## Actions -/

/-- Compiling an action with readable texts stops at a parameter that is missing or at a number that
is too long. -/
theorem ActionDraft.IsReadable.blamesNoText {action : ActionDraft} {failure : Failure}
    (readable : action.IsReadable) (stops : action.Stops failure) : failure.BlamesNoText := by
  cases stops with
  | unknown _ _ faulty => exact absurd faulty ((readable _ (by decide)).not_isFaulty _)
  | known _ known first =>
      rcases first with ⟨before, param, after, split, _, paramStops⟩
      have mem : param ∈ _ := split ▸ List.mem_append_right before List.mem_cons_self
      have listed := Catalog.mem_of_actionType? known
      cases paramStops with
      | long _ _ => exact .tooManyDigits _
      | wrong fails =>
          cases fails with
          | missing _ _ => exact .omission (.param _ _ _)
          | faulty json faulty =>
              have field := (Catalog.field_mem_jsonFields_iff _ listed param mem).mpr json
              exact absurd faulty ((readable _ field).not_isFaulty _)

/-! ## Drafts -/

namespace Draft.IsReadable

variable {draft : Draft} {failure : Failure}

theorem blamesNoText (readable : draft.IsReadable) (failed : draft.compile = .error failure) :
    failure.BlamesNoText := by
  cases stops_of_compile failed with
  | header fails =>
      cases fails with
      | name _ => exact .omission .name
      | triggerType _ _ => exact .omission .triggerType
      | triggerParams _ _ faulty => exact absurd faulty (readable.triggerParams.not_isFaulty _)
  | condition _ _ first =>
      rcases first with ⟨_, _, _, _, _, keyStops⟩
      cases keyStops with
      | long _ _ => exact .tooManyDigits _
  | action _ _ first =>
      rcases first with ⟨before, action, after, split, _, stops⟩
      exact (readable.actions action (by simp [split])).blamesNoText stops
  | noAction _ _ _ => exact .omission .action

/-- With short numbers, what a draft with readable texts can lack is the only thing that can be
wrong with it. -/
theorem isOmission (readable : draft.IsReadable) (short : draft.HasShortNumbers)
    (failed : draft.compile = .error failure) : failure.IsOmission := by
  cases readable.blamesNoText failed with
  | omission missing => exact missing
  | tooManyDigits count =>
      have fails := fails_of_compile short failed
      generalize same : Failure.tooManyDigits count = failure at fails
      cases fails with
      | name => cases same
      | triggerType => cases same
      | triggerParams => cases same
      | action _ first => cases same ▸ first.isOfAction
      | noAction => cases same

end Draft.IsReadable

end Rulebook
