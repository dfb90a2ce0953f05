import Mathlib
import Rulebook.Proofs.Compile.Expansion
import Rulebook.Proofs.Compile.FirstFailure

/-!
# Kinds outside the catalog

The parameters of an action of an unknown kind are shown as one JSON text and read back from it.
Expanding looks for the kind as it stands, blanks and all, and compiling for the kind without them.
A kind that is unknown only because of its blanks is therefore compiled as the known kind, whose
fields the expanded action does not have: its parameters are lost, and where one is required the
action does not compile.
-/

namespace Rulebook

/-- The parameters of an action in which every field is blank, as far as the catalog has values for
them. -/
def ActionType.blankParams (entry : ActionType) : Json.Fields :=
  entry.params.filterMap fun param => param.blankValue.map fun value => (param.name, value)

theorem Catalog.field_ne_unknownField :
    ∀ entry ∈ actionTypes, ∀ param ∈ entry.params, param.field ≠ unknownField := by
  decide

namespace ActionDraft

section

variable {action : Action} {kind : String} {entry : ActionType}

/-- The one text that shows the parameters is in none of the fields of the known kind. -/
theorem text_ofAction_eq_nil (typed : action.type = .str kind)
    (filled : Text.trim kind.toList ≠ []) (unknown : Catalog.actionType? kind = none)
    (known : entry ∈ Catalog.actionTypes) {param : Param} (mem : param ∈ entry.params)
    (id : Json) : (ofAction id action).text param.field = [] := by
  have other := Catalog.field_ne_unknownField entry known param mem
  have absent : (ofAction id action).fields.get param.field = .null := by
    simp [ofAction_eq typed filled, Action.draftFields, Catalog.actionTypeOf?, unknown,
      Json.Fields.get, Json.Fields.get?, List.lookup, beq_false_of_ne other]
  rw [text, absent]

theorem compileBinding_of_blank {draft : ActionDraft} {param : Param} (sound : param.IsSound)
    (optional : param.required = false) (blank : draft.text param.field = []) :
    draft.compileBinding kind param =
      .ok (param.blankValue.map fun value => (param.name, value)) := by
  rw [compileBinding_eq_ok_iff]
  exact ⟨_, compileParam_of_blank sound optional blank, by simp [optional], rfl⟩

theorem optional_of_compileBinding {draft : ActionDraft} {param : Param} (sound : param.IsSound)
    (blank : draft.text param.field = []) {binding : Option (String × Json)}
    (bound : draft.compileBinding kind param = .ok binding) : param.required = false := by
  by_contra required
  rw [Bool.not_eq_false] at required
  rcases compileBinding_eq_ok_iff.mp bound with ⟨value, compiled, filled, _⟩
  rw [compileParam_of_required (sound.required required) required, blank] at compiled
  cases compiled
  exact absurd (filled required) (by decide)

/-- An action whose kind is known only without its blanks keeps no parameter: it compiles if none is
required, and then to what blank fields stand for. -/
theorem compile_ofAction_of_trimmedKnown (typed : action.type = .str kind)
    (filled : Text.trim kind.toList ≠ []) (unknown : Catalog.actionType? kind = none)
    (known : Catalog.actionType? (String.ofList (Text.trim kind.toList)) = some entry) (id : Json)
    (compiled : Action) :
    (ofAction id action).compile = .ok (some compiled) ↔
      (∀ param ∈ entry.params, param.required = false) ∧
        compiled = ⟨.str (String.ofList (Text.trim kind.toList)), .obj entry.blankParams⟩ := by
  have listed := Catalog.mem_of_actionType? known
  have sameKind := kind_ofAction typed filled id
  have blank : ∀ param ∈ entry.params, (ofAction id action).text param.field = [] :=
    fun param mem => text_ofAction_eq_nil typed filled unknown listed mem id
  have sound := Catalog.isSound_of_mem entry listed
  rw [compile_of_known (sameKind ▸ filled) (sameKind ▸ known), Scan.map_eq_ok_iff, sameKind]
  constructor
  · rintro ⟨fields, scanned, same⟩
    have optional : ∀ param ∈ entry.params, param.required = false := by
      intro param mem
      rcases Scan.exists_ok_of_mem scanned param mem with ⟨binding, bound⟩
      exact optional_of_compileBinding (sound param mem) (blank param mem) bound
    rw [Scan.filterMapM_of_ok _ fun param mem =>
      compileBinding_of_blank (sound param mem) (optional param mem) (blank param mem)] at scanned
    cases scanned
    exact ⟨optional, (Option.some.inj same).symm⟩
  · rintro ⟨optional, rfl⟩
    exact ⟨_, Scan.filterMapM_of_ok _ fun param mem =>
      compileBinding_of_blank (sound param mem) (optional param mem) (blank param mem), rfl⟩

/-- The parameters of an action of an unknown kind survive expanding and compiling exactly if the
kind is unknown without its blanks too, or is a kind of which no parameter is required and the
parameters are those of blank fields. -/
theorem compile_ofAction_params_iff (typed : action.type = .str kind)
    (filled : Text.trim kind.toList ≠ []) (unknown : Catalog.actionType? kind = none)
    (object : action.params.isObject = true) (plain : action.params.IsPlain) (id : Json) :
    (∃ compiled, (ofAction id action).compile = .ok (some compiled) ∧
        compiled.params = action.params) ↔
      ∀ entry, Catalog.actionType? (String.ofList (Text.trim kind.toList)) = some entry →
        (∀ param ∈ entry.params, param.required = false) ∧
          action.params = .obj entry.blankParams := by
  cases trimmed : Catalog.actionType? (String.ofList (Text.trim kind.toList)) with
  | none =>
      have substantial : action.params.IsSubstantial := Or.inr (Or.inr object)
      have compiled :=
        compile_ofAction_of_unknown typed filled unknown trimmed substantial plain id
      simp [compiled]
  | some entry =>
      simp only [compile_ofAction_of_trimmedKnown typed filled unknown trimmed]
      constructor
      · rintro ⟨compiled, ⟨optional, rfl⟩, same⟩ other known
        cases known
        exact ⟨optional, same.symm⟩
      · intro survives
        rcases survives entry rfl with ⟨optional, same⟩
        exact ⟨_, ⟨optional, rfl⟩, same.symm⟩

end

end ActionDraft

/-- An action of a kind that the catalog does not know in any spelling. -/
def Action.textMessage : Action where
  type := .str " send_sms\t"
  params := .obj [("to", .arr [.str "+1", .null]), ("retry", .obj [("times", .int 3)]),
    ("event", .str " ")]

/-- An action of a kind that is in the catalog but for the blank before it. -/
def Action.paddedConversion : Action where
  type := .str " send_conversion"
  params := .obj [("eventName", .str "Lead")]

theorem Action.textMessage_isPlain : textMessage.params.IsPlain := by
  have recipients : (Json.arr [.str "+1", .null]).IsPlain :=
    .arr (by simpa using ⟨.str "+1", .null⟩)
  have retry : (Json.obj [("times", .int 3)]).IsPlain :=
    .obj (by decide) (by simpa using Json.IsPlain.int (by decide +kernel))
  exact .obj (by decide) (by simpa using ⟨recipients, retry, .str " "⟩)

theorem Action.paddedConversion_isPlain : paddedConversion.params.IsPlain :=
  .obj (by decide) (by simpa using Json.IsPlain.str "Lead")

theorem ActionDraft.textMessage_survives :
    (Text.trim " send_sms\t".toList ≠ [] ∧ Catalog.actionType? " send_sms\t" = none ∧
      Action.textMessage.params.isObject = true ∧ Action.textMessage.params.IsPlain) ∧
    ∃ compiled, (ofAction (.str "act_1") Action.textMessage).compile = .ok (some compiled) ∧
      compiled.params = Action.textMessage.params := by
  refine ⟨⟨by decide, by decide, rfl, Action.textMessage_isPlain⟩, ?_⟩
  rw [compile_ofAction_params_iff rfl (by decide) (by decide) rfl Action.textMessage_isPlain]
  intro entry known
  have unknown : Catalog.actionType? (String.ofList (Text.trim " send_sms\t".toList)) = none := by
    decide
  rw [unknown] at known
  cases known

/-- The blank before its kind costs the action its parameter. -/
theorem ActionDraft.not_survives_paddedConversion :
    (Text.trim " send_conversion".toList ≠ [] ∧ Catalog.actionType? " send_conversion" = none ∧
      Action.paddedConversion.params.isObject = true ∧ Action.paddedConversion.params.IsPlain) ∧
    (ofAction (.str "act_1") Action.paddedConversion).compile =
      .ok (some ⟨.str "send_conversion", .obj []⟩) ∧
    ¬∃ compiled, (ofAction (.str "act_1") Action.paddedConversion).compile = .ok (some compiled) ∧
      compiled.params = Action.paddedConversion.params := by
  have compiled : (ofAction (.str "act_1") Action.paddedConversion).compile =
      .ok (some ⟨.str "send_conversion", .obj []⟩) := by
    decide +kernel
  refine ⟨⟨by decide, by decide, rfl, Action.paddedConversion_isPlain⟩, compiled, ?_⟩
  rintro ⟨other, succeeds, same⟩
  rw [compiled] at succeeds
  cases succeeds
  cases same

end Rulebook
