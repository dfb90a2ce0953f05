import Mathlib
import Rulebook.Proofs.Compile.Canonical
import Rulebook.Proofs.Compile.Steps

/-!
# Whatever compiles is canonical

A draft may hold any values in its fields, and what compiles from it is canonical all the same.
The argument follows the scans of the compiler: the value of one parameter is acceptable, so the
parameters of an action are admitted by its kind; the value of one condition is acceptable, so the
conditions are; and a compiled rule consists of these parts and of tidy texts.
-/

namespace Rulebook

namespace Param

theorem exists_settle (param : Param) (always : param.blankValue.isSome = true) (value : Json) :
    ∃ result, param.settle value = some result := by
  rcases Option.isSome_iff_exists.mp always with ⟨blank, held⟩
  rw [settle, held]
  split
  · exact ⟨value, by simp⟩
  · exact ⟨blank, rfl⟩

theorem accepts_of_settle {param : Param} (sound : param.IsSound) (json : param.shape = .json)
    {value result : Json} (settled : param.settle value = some result) : param.Accepts result := by
  simp only [Accepts, json]
  rw [settle] at settled
  split at settled
  · next substantial =>
    split at settled
    · cases settled
    · next other =>
      cases settled
      exact ⟨substantial, fun noBlank empty => other ⟨noBlank, empty⟩⟩
  · refine ⟨(sound.blank result settled).2, ?_⟩
    intro noBlank
    rw [noBlank] at settled
    cases settled

end Param

namespace ActionDraft

theorem isNatural_of_compileParam {action : ActionDraft} {param : Param} {value : Json}
    (shape : param.shape = .integer) (compiled : action.compileParam param = .ok (some value)) :
    value.IsNatural := by
  simp only [compileParam, shape] at compiled
  split at compiled
  · cases compiled
  · split at compiled
    · next number _ =>
      cases compiled
      exact ⟨number, rfl⟩
    · cases compiled

theorem isItemList_of_compileParam {action : ActionDraft} {param : Param} {value : Json}
    (shape : param.shape = .lines) (compiled : action.compileParam param = .ok (some value)) :
    value.IsItemList := by
  simp only [compileParam, shape] at compiled
  split at compiled
  · cases compiled
  · next filled =>
    cases compiled
    exact ⟨_, filled, fun item mem => Text.isItem_of_mem_listItems mem, rfl⟩

/-- A text that is there is tidy. A required text is there only if it counts as filled in. -/
theorem isTidyText_of_compileParam {action : ActionDraft} {param : Param} {value : Json}
    (shape : param.shape = .text) (compiled : action.compileParam param = .ok (some value))
    (filled : param.required = true → value.isTruthy = true) : value.IsTidyText := by
  simp only [compileParam, shape] at compiled
  split at compiled
  · cases compiled
  · next notLeftOut =>
    cases compiled
    apply Json.isTidyText_ofList
    apply Text.isTidy_trim
    intro empty
    have required : param.required = true := by
      simpa [empty] using notLeftOut
    have truthy := filled required
    rw [empty] at truthy
    cases truthy

theorem accepts_of_compileParam {action : ActionDraft} {param : Param} (sound : param.IsSound)
    {value : Json} (compiled : action.compileParam param = .ok (some value))
    (filled : param.required = true → value.isTruthy = true) : param.Accepts value := by
  cases shape : param.shape with
  | text =>
      simp only [Param.Accepts, shape]
      exact isTidyText_of_compileParam shape compiled filled
  | integer =>
      simp only [Param.Accepts, shape]
      exact isNatural_of_compileParam shape compiled
  | lines =>
      simp only [Param.Accepts, shape]
      exact isItemList_of_compileParam shape compiled
  | json =>
      simp only [compileParam, shape] at compiled
      rcases compileJson_eq_ok_iff.mp compiled with ⟨read, _, settled⟩
      exact Param.accepts_of_settle sound shape settled

theorem name_of_compileBinding {action : ActionDraft} {kind : String} {param : Param}
    {field : String × Json} (compiled : action.compileBinding kind param = .ok (some field)) :
    field.1 = param.name := by
  rcases compileBinding_eq_ok_iff.mp compiled with ⟨value, _, _, same⟩
  rcases Option.map_eq_some_iff.mp same with ⟨present, _, rfl⟩
  rfl

theorem accepts_of_compileBinding {action : ActionDraft} {kind : String} {param : Param}
    (sound : param.IsSound) {field : String × Json}
    (compiled : action.compileBinding kind param = .ok (some field)) :
    field.1 = param.name ∧ param.Accepts field.2 := by
  rcases compileBinding_eq_ok_iff.mp compiled with ⟨value, compiledValue, filled, same⟩
  rcases Option.map_eq_some_iff.mp same with ⟨present, rfl, rfl⟩
  exact ⟨rfl, accepts_of_compileParam sound compiledValue (by simpa using filled)⟩

theorem exists_of_compileBinding {action : ActionDraft} {kind : String} {param : Param}
    (sound : param.IsSound) (always : param.IsAlwaysThere) {binding : Option (String × Json)}
    (compiled : action.compileBinding kind param = .ok binding) :
    ∃ value, binding = some (param.name, value) := by
  rcases compileBinding_eq_ok_iff.mp compiled with ⟨value, compiledValue, filled, rfl⟩
  have present : ∃ held, value = some held := by
    rcases always with required | blank
    · rcases (Option.any_eq_true _ _).mp (filled required) with ⟨held, rfl, _⟩
      exact ⟨held, rfl⟩
    · rcases Option.isSome_iff_exists.mp blank with ⟨blankValue, held⟩
      have json := (sound.blank blankValue held).1
      simp only [compileParam, json] at compiledValue
      rcases compileJson_eq_ok_iff.mp compiledValue with ⟨read, _, settled⟩
      rw [← settled]
      exact Param.exists_settle param blank read
  rcases present with ⟨held, rfl⟩
  exact ⟨held, rfl⟩

theorem admits_of_scan {action : ActionDraft} {kind : String} {entry : ActionType}
    (known : entry ∈ Catalog.actionTypes) {fields : Json.Fields}
    (scanned : entry.params.filterMapM (action.compileBinding kind) = .ok fields) :
    entry.Admits fields where
  distinct := by
    have names := Scan.labels_sublist Param.name Prod.fst
      (fun param field compiled => name_of_compileBinding compiled) scanned
    exact (Catalog.nodup_names entry known).sublist names
  declared field mem := by
    rcases (Scan.mem_results_iff scanned).mp mem with ⟨param, paramMem, compiled⟩
    exact ⟨param, paramMem,
      accepts_of_compileBinding (Catalog.isSound_of_mem entry known param paramMem) compiled⟩
  complete param mem always := by
    have sound := Catalog.isSound_of_mem entry known param mem
    rcases Scan.exists_ok_of_mem scanned param mem with ⟨binding, compiled⟩
    rcases exists_of_compileBinding sound always compiled with ⟨value, rfl⟩
    exact ⟨value, (Scan.mem_results_iff scanned).mpr ⟨param, mem, compiled⟩⟩

/-- A compiled action is canonical. -/
theorem isCanonical_of_compile {action : ActionDraft} {compiled : Action}
    (succeeds : action.compile = .ok (some compiled)) : compiled.IsCanonical := by
  rcases of_compile_eq_some succeeds with ⟨filled, typed, params⟩
  refine ⟨String.ofList action.kind, typed, ?_, ?_⟩
  · rw [String.toList_ofList]
    exact Text.isTidy_trim filled
  · rw [Json.AreParams]
    rcases params with ⟨unknown, result, compiledParams, same⟩ | ⟨entry, fields, known, scanned, same⟩
    · rw [unknown]
      rcases compileJson_eq_ok_iff.mp compiledParams with ⟨value, _, settled⟩
      rcases Param.exists_settle Catalog.unknownParams rfl value with ⟨held, present⟩
      rw [same, ← settled, present]
      exact (Param.accepts_of_settle (by decide) rfl present).1
    · rw [known]
      exact ⟨fields, same, admits_of_scan (Catalog.mem_of_actionType? known) scanned⟩

end ActionDraft

namespace ConditionDraft

theorem accepts_of_compileKey {draft : ConditionDraft} {key : ConditionKey}
    {field : String × Json} (compiled : draft.compileKey key = .ok (some field)) :
    field.1 = key.name ∧ key.Accepts field.2 := by
  rcases compileKey_eq_ok_some_iff.mp compiled with ⟨filled, value, compiledValue, rfl⟩
  refine ⟨rfl, ?_⟩
  by_cases numeric : key.isNumeric = true
  · rw [compileValue_of_isNumeric numeric] at compiledValue
    rcases Scan.map_eq_ok_iff.mp compiledValue with ⟨number, _, rfl⟩
    rw [ConditionKey.Accepts, if_pos numeric]
    exact ⟨number, rfl⟩
  · rw [compileValue_of_text numeric] at compiledValue
    cases compiledValue
    rw [ConditionKey.Accepts, if_neg numeric]
    exact Json.isTidyText_ofList (Text.isTidy_trim filled)

theorem areConditions_of_compile {draft : ConditionDraft} {conditions : Json}
    (compiled : draft.compile = .ok conditions) : conditions.AreConditions := by
  rcases compile_eq_ok_iff.mp compiled with ⟨fields, scanned, rfl⟩
  split
  · exact Or.inl rfl
  · next filled =>
    refine Or.inr ⟨fields, rfl, filled, ?_, ?_⟩
    · have names := Scan.labels_sublist ConditionKey.name Prod.fst
        (fun key field compiled => (accepts_of_compileKey compiled).1) scanned
      have nodup : (ConditionKey.all.map ConditionKey.name).Nodup := by decide
      exact nodup.sublist names
    · intro field mem
      rcases (Scan.mem_results_iff scanned).mp mem with ⟨key, _, compiledKey⟩
      exact ⟨key, accepts_of_compileKey compiledKey⟩

end ConditionDraft

theorem areConditions_of_compileConditions {draft : Option ConditionDraft} {conditions : Json}
    (compiled : compileConditions draft = .ok conditions) : conditions.AreConditions := by
  cases draft with
  | none =>
      cases compiled
      exact Or.inl rfl
  | some draft => exact ConditionDraft.areConditions_of_compile compiled

/-- Compiled actions come from the drafted actions with a kind, one after the other. -/
theorem forall₂_of_compileActions {actions : List ActionDraft} {compiled : List Action}
    (succeeds : compileActions actions = .ok compiled) :
    List.Forall₂ (fun drafted action => drafted.compile = .ok (some action))
      (actions.filter fun action => !action.kind.isEmpty) compiled := by
  rw [compileActions_eq_filterMapM] at succeeds
  apply Scan.forall₂_of_ok _ succeeds
  intro action
  rw [ActionDraft.compile_eq_ok_none_iff]
  simp

namespace Draft

theorem parseTyped_of_compileTriggerParams {draft : Draft} {params : Json}
    (compiled : draft.compileTriggerParams = .ok params) :
    Json.parseTyped draft.triggerParams.filledText = .ok params := by
  rw [compileTriggerParams] at compiled
  split at compiled
  · next value read =>
    cases compiled
    exact read
  · cases compiled

theorem isCanonical_of_compile {draft : Draft} {rule : Rule} (compiled : draft.compile = .ok rule) :
    rule.IsCanonical := by
  rcases compile_eq_ok_iff.mp compiled with
    ⟨named, typed, params, conditions, actions, _, compiledConditions, compiledActions, filled, rfl⟩
  exact {
    name := Json.isTidyText_ofList (Text.isTidy_trim named)
    active := ⟨_, rfl⟩
    triggerType := Json.isTidyText_ofList (Text.isTidy_trim typed)
    conditions := areConditions_of_compileConditions compiledConditions
    filled := filled
    actions := by
      intro action mem
      rw [compileActions_eq_filterMapM] at compiledActions
      rcases (Scan.mem_results_iff compiledActions).mp mem with ⟨drafted, _, succeeds⟩
      exact ActionDraft.isCanonical_of_compile succeeds }

end Draft

/-- What a rule has of the draft that it is compiled from. -/
structure Rule.ConformsTo (rule : Rule) (draft : Draft) : Prop where
  /-- Every part of the rule has its one form. -/
  canonical : rule.IsCanonical
  /-- The rule keeps the identity of the draft. -/
  id : rule.id = draft.id
  /-- The rule is switched on if the draft counts as such. -/
  active : rule.active = .bool draft.active.isTruthy
  /-- The name is what was typed without the blanks around it. -/
  name : rule.name = .str (String.ofList draft.name.trimmedText)
  /-- So is the event. -/
  triggerType : rule.trigger.type = .str (String.ofList draft.triggerType.trimmedText)
  /-- The parameters of the event are what the typed text says. -/
  triggerParams : Json.parseTyped draft.triggerParams.filledText = .ok rule.trigger.params
  /-- The actions are the drafted actions with a kind, compiled one after the other. -/
  actions : List.Forall₂
    (fun drafted action => drafted.compile = .ok (some action) ∧
      action.type = .str (String.ofList drafted.kind))
    (draft.actions.filter fun action => !action.kind.isEmpty) rule.actions

namespace Draft

/-- Every compiled rule conforms to its draft, and in particular to what the wire admits. -/
theorem conforms_of_compile {draft : Draft} {rule : Rule} (compiled : draft.compile = .ok rule) :
    rule.ConformsTo draft := by
  have canonical := isCanonical_of_compile compiled
  rcases compile_eq_ok_iff.mp compiled with
    ⟨_, _, params, conditions, actions, compiledParams, _, compiledActions, _, rfl⟩
  refine ⟨canonical, rfl, rfl, rfl, rfl, parseTyped_of_compileTriggerParams compiledParams, ?_⟩
  apply (forall₂_of_compileActions compiledActions).imp
  intro drafted action succeeds
  exact ⟨succeeds, (ActionDraft.of_compile_eq_some succeeds).2.1⟩

/-- A draft with blanks around its texts, an action without a kind, a number where a text is
expected, a typed list and a number of minutes with more behind it. -/
def audience : Draft where
  id := .null
  name := .str " Welcome "
  active := .int 1
  triggerType := .str "lead_created"
  triggerParams := .str "[1]"
  conditions := some (ConditionDraft.blank.set .noActivity (.str "15min"))
  actions :=
    [⟨.str " ", [], .null⟩,
      ⟨.str " add_custom_audience", [("ad_account_id", .int 5), ("emails_text", .str "a, b\n")],
        .str "act_1"⟩]

/-- The rule that `Draft.audience` compiles to. -/
def audienceRule : Rule where
  id := .null
  name := .str "Welcome"
  active := .bool true
  trigger := ⟨.str "lead_created", .arr [.int 1], .obj [("no_activity_since_minutes", .int 15)]⟩
  actions := [⟨.str "add_custom_audience",
    .obj [("adAccountId", .str "5"), ("emails", .arr [.str "a", .str "b"])]⟩]

theorem audienceRule_conformsTo :
    audience.compile = .ok audienceRule ∧ audienceRule.ConformsTo audience :=
  ⟨by decide +kernel, conforms_of_compile (by decide +kernel)⟩

end Draft

end Rulebook
