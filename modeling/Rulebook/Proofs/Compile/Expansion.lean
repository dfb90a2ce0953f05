import Mathlib
import Rulebook.Expand
import Rulebook.Proofs.Compile.Conformance
import Rulebook.Proofs.Compile.Texts
import Rulebook.Proofs.Json.RoundTrip
import Rulebook.Proofs.Text.LeadingNumber

/-!
# Expanding a rule and compiling it again

Expanding writes a rule into the fields of a form and compiling reads the fields. The two walk the
catalog separately and meet only in the typed texts, so that the whole argument rests on one lemma
about one parameter: an acceptable value is read back from the text in which its field shows it,
and a field that shows nothing is read as nothing. What compiles is canonical whatever the draft
was, hence exactly the canonical rules survive. The fields of parameters and conditions come back in
catalog order.
-/

namespace Rulebook

/-- The parts of the rule that are written as JSON text or as digits can be read back from it. -/
structure Rule.IsPlain (rule : Rule) : Prop where
  /-- The parameters of the event can be read back. -/
  triggerParams : rule.trigger.params.IsPlain
  /-- So can the conditions. -/
  conditions : rule.trigger.conditions.IsPlain
  /-- So can the parameters of every action. -/
  actions : ∀ action ∈ rule.actions, action.params.IsPlain

namespace Json

theorem IsPlain.value_of_mem {fields : Fields} (plain : IsPlain (.obj fields)) {name : String}
    {value : Json} (mem : (name, value) ∈ fields) : value.IsPlain := by
  cases plain with
  | obj distinct each => exact each (name, value) mem

theorem IsTidyText.isTruthy {value : Json} (tidy : value.IsTidyText) : value.isTruthy = true := by
  rcases tidy with ⟨text, rfl, filled, _⟩
  have notEmpty : text ≠ "" := by
    rintro rfl
    exact filled rfl
  simpa [Json.isTruthy] using notEmpty

theorem IsTidyText.trimmedText_eq {text : String} (tidy : IsTidyText (.str text)) :
    trimmedText (.str text) = text.toList := by
  rw [trimmedText_str, (isTidyText_str tidy).2]

theorem display_natural (number : Nat) : display (.int number) = Text.decimal number := rfl

end Json

theorem textOr_of_isTidyText {value : Json} (tidy : value.IsTidyText) (fallback : String) :
    textOr value fallback = value := by
  have filled := tidy.isTruthy
  rcases tidy with ⟨text, rfl, _⟩
  rw [textOr, if_pos filled, Json.display, String.ofList_toList]

/-! ## Fields of JSON text -/

theorem jsonFieldText_of_isPlain {value : Json} (plain : value.IsPlain) :
    jsonFieldText value = .str (String.ofList (value.print Json.pretty)) := by
  rw [jsonFieldText, if_pos plain.isWritable]

/-- The text that a field shows for a plain value is read as the value, with the fields of all
objects in their order, and so is the text with any blanks around it. -/
theorem parseTyped_jsonFieldText {value : Json} (plain : value.IsPlain) :
    Json.parseTyped (jsonFieldText value).filledText = .ok value ∧
      ∀ padded, (jsonFieldText value).PadsTo padded →
        Json.parseTyped padded.filledText = .ok value := by
  have read : Json.parseTyped (jsonFieldText value).filledText = .ok value := by
    rw [jsonFieldText_of_isPlain plain, Json.filledText_str, String.toList_ofList]
    exact Json.parseTyped_print Json.pretty_isReadable plain
  refine ⟨read, fun padded pads => ?_⟩
  rw [← read]
  exact Json.parseTyped_congr pads.trimmedText_eq.symm

/-- An object whose fields are not sorted, with empty containers inside and with quotes, line ends
and blanks in its texts. Wide blanks and a line separator stand around it. -/
theorem parseTyped_jsonFieldText_nested :
    let value : Json := .obj [("z", .arr [.arr [], .obj [], .int (-7)]),
      ("\x07\"", .str " \u2028\n\\ü "), ("a", .null)]
    let padded : Json :=
      .str ("\u3000\t" ++ String.ofList (value.print Json.pretty) ++ "\u2028")
    value.IsPlain ∧ (jsonFieldText value).PadsTo padded ∧
      Json.parseTyped (jsonFieldText value).filledText = .ok value ∧
      Json.parseTyped padded.filledText = .ok value := by
  intro value padded
  have plain : value.IsPlain := by
    refine .obj (by decide) ?_
    have items : (Json.arr [.arr [], .obj [], .int (-7)]).IsPlain := .arr (by
      simpa using ⟨Json.IsPlain.arr (by simp), Json.IsPlain.obj .nil (by simp),
        Json.IsPlain.int (by decide +kernel)⟩)
    simpa using ⟨items, Json.IsPlain.str _, Json.IsPlain.null⟩
  have pads : (jsonFieldText value).PadsTo padded :=
    ⟨"\u3000\t", _, "\u2028", by decide, by decide, jsonFieldText_of_isPlain plain, rfl⟩
  have reads := parseTyped_jsonFieldText plain
  exact ⟨plain, pads, reads.1, reads.2 padded pads⟩

/-! ## One parameter -/

namespace ActionDraft

theorem text_of_get? {action : ActionDraft} {field text : String}
    (shown : action.fields.get? field = some (.str text)) : action.text field = text.toList := by
  simp [ActionDraft.text, Json.Fields.get, shown, Json.display]

section Shown

variable {action : ActionDraft} {param : Param} {value : Json}

theorem compileParam_of_shownText (shape : param.shape = .text)
    (shown : action.fields.get? param.field = some (param.fieldText value))
    (tidy : value.IsTidyText) : action.compileParam param = .ok (some value) := by
  rcases tidy with ⟨text, rfl, filled, trimmed⟩
  simp only [Param.fieldText, shape, Json.display, String.ofList_toList] at shown
  have notEmpty : text.toList.isEmpty = false := List.isEmpty_eq_false_iff.mpr filled
  simp only [compileParam, shape, text_of_get? shown, trimmed, notEmpty, Bool.false_and,
    Bool.false_eq_true, if_false, String.ofList_toList]

theorem compileParam_of_shownInteger (shape : param.shape = .integer)
    (shown : action.fields.get? param.field = some (param.fieldText value))
    (natural : value.IsNatural) (plain : value.IsPlain) :
    action.compileParam param = .ok (some value) := by
  rcases natural with ⟨number, rfl⟩
  have short : (Text.decimal number).length ≤ Json.digitLimit := by
    cases plain with
    | int short => exact short
  simp only [Param.fieldText, shape, Json.display_natural] at shown
  have tidy := Text.isTidy_decimal number
  simp only [compileParam, shape, text_of_get? shown, String.toList_ofList, tidy.2,
    List.isEmpty_iff, tidy.1, if_false, lenientNat_decimal short]

theorem compileParam_of_shownLines (shape : param.shape = .lines)
    (shown : action.fields.get? param.field = some (param.fieldText value))
    (list : value.IsItemList) : action.compileParam param = .ok (some value) := by
  rcases list with ⟨items, filled, each, rfl⟩
  have texts : ((items.map fun item => Json.str (String.ofList item)).filter (· != .null)).map
      Json.display = items := by
    rw [List.filter_eq_self.mpr (by simp), List.map_map]
    conv_rhs => rw [← List.map_id items]
    exact List.map_congr_left fun item _ => String.toList_ofList
  simp only [Param.fieldText, shape, texts] at shown
  simp only [compileParam, shape, text_of_get? shown, String.toList_ofList,
    (Text.isTidy_join filled each).2, Text.listItems_join filled each]

theorem compileParam_of_shownJson (shape : param.shape = .json)
    (shown : action.fields.get? param.field = some (param.fieldText value))
    (substantial : value.IsSubstantial) (kept : param.blankValue = none → value ≠ .obj [])
    (plain : value.IsPlain) : action.compileParam param = .ok (some value) := by
  have notNull : value ≠ .null := by
    rintro rfl
    exact absurd substantial (by decide)
  have field : param.fieldText value = jsonFieldText value := by
    cases value <;> simp_all [Param.fieldText]
  rw [field, jsonFieldText_of_isPlain plain] at shown
  have read : Json.parseTyped (action.text param.field) = .ok value := by
    rw [text_of_get? shown, String.toList_ofList]
    exact Json.parseTyped_print Json.pretty_isReadable plain
  simp only [compileParam, shape, compileJson_of_ok read, Param.settle, substantial, if_true]
  rw [if_neg]
  rintro ⟨noBlank, empty⟩
  exact kept noBlank empty

/-- An acceptable value is read back from the text in which its field shows it. -/
theorem compileParam_of_shown (accepts : param.Accepts value) (plain : value.IsPlain)
    (shown : action.fields.get? param.field = some (param.fieldText value)) :
    action.compileParam param = .ok (some value) := by
  rw [Param.Accepts] at accepts
  cases shape : param.shape with
  | text =>
      simp only [shape] at accepts
      exact compileParam_of_shownText shape shown accepts
  | integer =>
      simp only [shape] at accepts
      exact compileParam_of_shownInteger shape shown accepts plain
  | lines =>
      simp only [shape] at accepts
      exact compileParam_of_shownLines shape shown accepts
  | json =>
      simp only [shape] at accepts
      exact compileParam_of_shownJson shape shown accepts.1 accepts.2 plain

/-- A blank field stands for the value that the catalog gives for it, if any. -/
theorem compileParam_of_blank (sound : param.IsSound) (optional : param.required = false)
    (blank : action.text param.field = []) : action.compileParam param = .ok param.blankValue := by
  have noValue : param.shape ≠ .json → param.blankValue = none := by
    intro notJson
    rw [Option.eq_none_iff_forall_not_mem]
    intro value mem
    exact notJson (sound.blank value mem).1
  cases shape : param.shape with
  | text => simp [compileParam, shape, blank, Text.trim_nil, optional, noValue]
  | integer => simp [compileParam, shape, blank, Text.trim_nil, noValue]
  | lines =>
      rw [noValue (by simp [shape])]
      simp only [compileParam, shape, blank]
      rfl
  | json =>
      have read : Json.parseTyped (action.text param.field) = .ok .null := by
        rw [blank]
        rfl
      simp only [compileParam, shape, compileJson_of_ok read]
      rfl

/-- A parameter that may be left out is left out if there is nothing to show. -/
theorem compileParam_of_shownNull (sound : param.IsSound) (optional : ¬param.IsAlwaysThere)
    (shown : action.fields.get? param.field = some (param.fieldText .null)) :
    action.compileParam param = .ok none := by
  rw [Param.IsAlwaysThere, not_or, Bool.not_eq_true, Option.not_isSome_iff_eq_none] at optional
  by_cases shape : param.shape = .json
  · have empty : (Json.obj []).IsPlain := .obj .nil (by simp)
    simp only [Param.fieldText, shape, jsonFieldText_of_isPlain empty] at shown
    have read : Json.parseTyped (action.text param.field) = .ok (.obj []) := by
      rw [text_of_get? shown, String.toList_ofList]
      exact Json.parseTyped_print Json.pretty_isReadable empty
    simp only [compileParam, shape, compileJson_of_ok read, Param.settle, optional.2]
    rfl
  · have blank : param.fieldText .null = .str "" := by
      cases held : param.shape <;> simp_all [Param.fieldText]
    rw [blank] at shown
    rw [compileParam_of_blank sound optional.1 (text_of_get? shown), optional.2]

end Shown

/-! ## One action -/

/-- A parameter of an admitted object is bound as in the object. -/
theorem compileBinding_of_shown {action : ActionDraft} {kind : String} {entry : ActionType}
    {param : Param} {fields : Json.Fields} (known : entry ∈ Catalog.actionTypes)
    (mem : param ∈ entry.params) (admits : entry.Admits fields)
    (plain : (Json.obj fields).IsPlain)
    (shown : action.fields.get? param.field = some (param.fieldText (fields.get param.name))) :
    action.compileBinding kind param =
      .ok ((fields.get? param.name).map fun value => (param.name, value)) := by
  rw [Json.Fields.get] at shown
  rw [compileBinding_eq_ok_iff]
  cases found : fields.get? param.name with
  | none =>
      rw [found, Option.getD_none] at shown
      have optional : ¬param.IsAlwaysThere := by
        intro always
        rcases admits.complete param mem always with ⟨value, held⟩
        exact Json.Fields.get?_eq_none_iff.mp found value held
      have notRequired : ¬param.required = true := fun required => optional (Or.inl required)
      have sound := Catalog.isSound_of_mem entry known param mem
      exact ⟨none, compileParam_of_shownNull sound optional shown, by simp [notRequired], rfl⟩
  | some value =>
      rw [found, Option.getD_some] at shown
      have held := Json.Fields.mem_of_get? found
      rcases admits.declared _ held with ⟨declared, declaredMem, sameName, accepts⟩
      have same : declared = param :=
        List.inj_on_of_nodup_map (Catalog.nodup_names entry known) declaredMem mem sameName.symm
      subst same
      have filled : declared.required = true → value.isTruthy = true := by
        intro required
        have text := (Catalog.isSound_of_mem entry known declared mem).required required
        simp only [Param.Accepts, text] at accepts
        exact accepts.isTruthy
      exact ⟨some value, compileParam_of_shown accepts (plain.value_of_mem held) shown, filled, rfl⟩

/-- No two parameters of a kind share a field. -/
theorem distinct_fields {entry : ActionType} (listed : entry ∈ Catalog.actionTypes)
    (give : Param → Json) :
    Json.Fields.Distinct (entry.params.map fun param => (param.field, give param)) := by
  rw [Json.Fields.Distinct, List.map_map]
  exact Catalog.nodup_fields entry listed

theorem draftFields_eq {action : Action} {kind : String} {entry : ActionType}
    (known : Catalog.actionType? kind = some entry) :
    action.draftFields (.str kind) = entry.params.map fun param =>
      (param.field, param.fieldText (action.params.field param.name)) := by
  simp only [Action.draftFields, Catalog.actionTypeOf?, known]
  exact Json.Fields.ofBindings_of_distinct
    (distinct_fields (Catalog.mem_of_actionType? known) _)

theorem get?_draftFields {action : Action} {kind : String} {entry : ActionType} {param : Param}
    (known : Catalog.actionType? kind = some entry) (mem : param ∈ entry.params) :
    (action.draftFields (.str kind)).get? param.field =
      some (param.fieldText (action.params.field param.name)) := by
  rw [draftFields_eq known]
  exact Json.Fields.get?_of_mem (distinct_fields (Catalog.mem_of_actionType? known) _)
    (List.mem_map.mpr ⟨param, mem, rfl⟩)

section Expanded

variable {action : Action} {kind : String}

theorem ofAction_eq (typed : action.type = .str kind) (filled : Text.trim kind.toList ≠ [])
    (id : Json) : ofAction id action = ⟨.str kind, action.draftFields (.str kind), id⟩ := by
  have notEmpty : kind ≠ "" := by
    rintro rfl
    exact filled Text.trim_nil
  have truthy : (Json.str kind).isTruthy = true := by simpa [Json.isTruthy] using notEmpty
  rw [ofAction, typed, textOr, if_pos truthy, Json.display, String.ofList_toList]

theorem kind_ofAction (typed : action.type = .str kind) (filled : Text.trim kind.toList ≠ [])
    (id : Json) : (ofAction id action).kind = Text.trim kind.toList := by
  rw [ofAction_eq typed filled, ActionDraft.kind, Json.trimmedText_str]

/-- The parameters of an action whose kind is unknown with and without the blanks around it are
shown as one text and read back from it. -/
theorem compile_ofAction_of_unknown (typed : action.type = .str kind)
    (filled : Text.trim kind.toList ≠ []) (unknown : Catalog.actionType? kind = none)
    (trimmedUnknown : Catalog.actionType? (String.ofList (Text.trim kind.toList)) = none)
    (substantial : action.params.IsSubstantial) (plain : action.params.IsPlain) (id : Json) :
    (ofAction id action).compile =
      .ok (some ⟨.str (String.ofList (Text.trim kind.toList)), action.params⟩) := by
  have sameKind := kind_ofAction typed filled id
  have notNull : action.params ≠ .null := by
    intro null
    rw [null] at substantial
    exact absurd substantial (by decide)
  have shown : (ofAction id action).fields.get? Catalog.unknownParams.field =
      some (jsonFieldText action.params) := by
    simp only [ofAction_eq typed filled, Action.draftFields, Catalog.actionTypeOf?, unknown,
      notNull, if_false]
    rfl
  have read : Json.parseTyped ((ofAction id action).text Catalog.unknownParams.field) =
      .ok action.params := by
    rw [jsonFieldText_of_isPlain plain] at shown
    rw [text_of_get? shown, String.toList_ofList]
    exact Json.parseTyped_print Json.pretty_isReadable plain
  rw [compile_of_unknown (sameKind ▸ filled) (sameKind ▸ trimmedUnknown), compileJson_of_ok read,
    sameKind, Param.settle, if_pos substantial]
  rfl

theorem compile_ofAction_of_known {entry : ActionType} {fields : Json.Fields}
    (typed : action.type = .str kind) (tidy : Text.IsTidy kind.toList)
    (known : Catalog.actionType? kind = some entry) (same : action.params = .obj fields)
    (admits : entry.Admits fields) (plain : action.params.IsPlain) (id : Json) :
    (ofAction id action).compile =
      .ok (some ⟨.str kind, .obj (fields.pick (entry.params.map Param.name))⟩) := by
  have filled : Text.trim kind.toList ≠ [] := by
    rw [tidy.2]
    exact tidy.1
  have sameKind : (ofAction id action).kind = kind.toList := by
    rw [kind_ofAction typed filled, tidy.2]
  have each : ∀ param ∈ entry.params, (ofAction id action).compileBinding kind param =
      .ok ((fields.get? param.name).map fun value => (param.name, value)) := by
    intro param mem
    apply compileBinding_of_shown (Catalog.mem_of_actionType? known) mem admits (same ▸ plain)
    rw [ofAction_eq typed filled, get?_draftFields known mem, same, Json.field, Json.fields]
  rw [compile_of_known (by rw [sameKind]; exact tidy.1)
    (by rw [sameKind, String.ofList_toList, known]), sameKind, String.ofList_toList,
    Scan.filterMapM_of_ok _ each, Json.Fields.filterMap_eq_pick Param.name]
  rfl

/-- A canonical action compiles again, and its parameters come back in catalog order. -/
theorem compile_ofAction (canonical : action.IsCanonical) (plain : action.params.IsPlain)
    (id : Json) :
    ∃ compiled, (ofAction id action).compile = .ok (some compiled) ∧
      compiled.SameUpToOrder action := by
  rcases canonical with ⟨kind, typed, tidy, params⟩
  rw [Json.AreParams] at params
  cases known : Catalog.actionType? kind with
  | none =>
      rw [known] at params
      have filled : Text.trim kind.toList ≠ [] := by
        rw [tidy.2]
        exact tidy.1
      have trimmedUnknown : Catalog.actionType? (String.ofList (Text.trim kind.toList)) = none := by
        rw [tidy.2, String.ofList_toList, known]
      have succeeds :=
        compile_ofAction_of_unknown typed filled known trimmedUnknown params plain id
      rw [tidy.2, String.ofList_toList] at succeeds
      exact ⟨_, succeeds, typed.symm, Or.inl rfl⟩
  | some entry =>
      rw [known] at params
      rcases params with ⟨fields, same, admits⟩
      refine ⟨_, compile_ofAction_of_known typed tidy known same admits plain id, typed.symm,
        Or.inr ⟨_, fields, rfl, same, ?_⟩⟩
      have once := Catalog.nodup_names entry (Catalog.mem_of_actionType? known)
      apply Json.Fields.pick_perm admits.distinct once
      intro field mem
      rcases admits.declared field mem with ⟨param, paramMem, sameName, _⟩
      exact sameName ▸ List.mem_map_of_mem paramMem

end Expanded

end ActionDraft

theorem compileActions_expandActions {actions : List Action}
    (canonical : ∀ action ∈ actions, action.IsCanonical)
    (plain : ∀ action ∈ actions, action.params.IsPlain) (next : Nat) :
    ∃ compiled, compileActions (expandActions next actions) = .ok compiled ∧
      List.Forall₂ Action.SameUpToOrder compiled actions := by
  induction actions generalizing next with
  | nil => exact ⟨[], rfl, .nil⟩
  | cons action rest ih =>
      rw [List.forall_mem_cons] at canonical plain
      rcases ActionDraft.compile_ofAction canonical.1 plain.1 (localId next) with
        ⟨first, succeeds, same⟩
      rcases ih canonical.2 plain.2 (next + 1) with ⟨later, succeedsLater, sameLater⟩
      refine ⟨first :: later, ?_, .cons same sameLater⟩
      rw [compileActions_eq_filterMapM] at succeedsLater ⊢
      rw [expandActions, Scan.filterMapM_cons_ok succeeds, succeedsLater]
      rfl

/-! ## Conditions and parameters of the event -/

namespace ConditionDraft

theorem compileKey_of_shown {draft : ConditionDraft} {key : ConditionKey} {value : Json}
    (accepts : key.Accepts value) (plain : value.IsPlain)
    (shown : draft.field key = valueText value) :
    draft.compileKey key = .ok (some (key.name, value)) := by
  rw [ConditionKey.Accepts] at accepts
  split at accepts
  · next numeric =>
    rcases accepts with ⟨number, rfl⟩
    have short : (Text.decimal number).length ≤ Json.digitLimit := by
      cases plain with
      | int short => exact short
    have tidy := Text.isTidy_decimal number
    have field : draft.field key = .str (String.ofList (Text.decimal number)) := shown
    have text : draft.trimmed key = Text.decimal number := by
      rw [trimmed, field, Json.trimmedText_str, String.toList_ofList, tidy.2]
    rw [compileKey, text, if_neg (by simpa using tidy.1), compileValue_of_isNumeric numeric,
      lenientNat_decimal short]
    rfl
  · next notNumeric =>
    rcases accepts with ⟨text, rfl, filled, trim⟩
    have field : draft.field key = .str (String.ofList text.toList) := shown
    have trimmedText : draft.trimmed key = text.toList := by
      rw [trimmed, field, Json.trimmedText_str, String.toList_ofList, trim]
    rw [compileKey, trimmedText, if_neg (by simpa using filled), compileValue_of_text notNumeric,
      String.ofList_toList]
    rfl

theorem compileKey_of_blank {draft : ConditionDraft} {key : ConditionKey}
    (blank : draft.field key = .str "") : draft.compileKey key = .ok none := by
  rw [compileKey_eq_ok_none_iff, trimmed, blank]
  rfl

end ConditionDraft

theorem ConditionKey.mem_all (key : ConditionKey) : key ∈ all := by
  cases key <;> decide

theorem ConditionKey.nodup_names : (all.map name).Nodup := by
  decide

theorem ConditionKey.name_injective : Function.Injective name := by
  intro left right same
  exact List.inj_on_of_nodup_map nodup_names left.mem_all right.mem_all same

theorem compileKey_ofConditions {conditions : Json} (canonical : conditions.AreConditions)
    (plain : conditions.IsPlain) (key : ConditionKey) :
    (ConditionDraft.ofConditions conditions).compileKey key =
      .ok ((conditions.fields.get? key.name).map fun value => (key.name, value)) := by
  have field : (ConditionDraft.ofConditions conditions).field key =
      ConditionDraft.valueText ((conditions.fields.get? key.name).getD .null) := rfl
  cases found : conditions.fields.get? key.name with
  | none =>
      rw [found] at field
      exact ConditionDraft.compileKey_of_blank field
  | some value =>
      rw [found] at field
      have held := Json.Fields.mem_of_get? found
      rcases canonical with rfl | ⟨fields, rfl, _, _, accepted⟩
      · cases held
      · rcases accepted _ held with ⟨other, sameName, accepts⟩
        cases ConditionKey.name_injective sameName
        exact ConditionDraft.compileKey_of_shown accepts (plain.value_of_mem held) field

/-- Conditions compile again, and come back in the order in which they are compiled. -/
theorem compileConditions_ofConditions {conditions : Json} (canonical : conditions.AreConditions)
    (plain : conditions.IsPlain) :
    ∃ compiled, compileConditions (some (.ofConditions conditions)) = .ok compiled ∧
      compiled.SameUpToOrder conditions := by
  have scanned := Scan.filterMapM_of_ok _ fun key (_ : key ∈ ConditionKey.all) =>
    compileKey_ofConditions canonical plain key
  rw [Json.Fields.filterMap_eq_pick ConditionKey.name] at scanned
  refine ⟨_, ConditionDraft.compile_eq_ok_iff.mpr ⟨_, scanned, rfl⟩, ?_⟩
  rcases canonical with rfl | ⟨fields, rfl, filled, distinct, accepted⟩
  · exact Or.inl rfl
  · have perm : (fields.pick (ConditionKey.all.map ConditionKey.name)).Perm fields := by
      apply Json.Fields.pick_perm distinct ConditionKey.nodup_names
      intro field mem
      rcases accepted field mem with ⟨key, sameName, _⟩
      exact sameName ▸ List.mem_map_of_mem key.mem_all
    have notEmpty : (Json.obj fields).fields.pick (ConditionKey.all.map ConditionKey.name) ≠ [] := by
      intro empty
      exact filled (List.nil_perm.mp (empty ▸ perm))
    rw [if_neg notEmpty]
    exact Or.inr ⟨_, fields, rfl, rfl, perm⟩

namespace Draft

theorem compileTriggerParams_ofRule {rule : Rule} (plain : rule.trigger.params.IsPlain)
    (next : Nat) : (ofRule next rule).1.compileTriggerParams = .ok rule.trigger.params := by
  have read : Json.parseTyped (ofRule next rule).1.triggerParams.filledText =
      .ok rule.trigger.params := by
    simp only [ofRule]
    split
    · next null =>
      rw [null]
      rfl
    · rw [jsonFieldText_of_isPlain plain, Json.filledText_str, String.toList_ofList]
      exact Json.parseTyped_print Json.pretty_isReadable plain
  rw [compileTriggerParams, read]

/-- Expanding a rule and compiling the draft gives the rule back, up to the order of the fields of
parameters and conditions, exactly if the rule is canonical. -/
theorem compile_ofRule_iff {rule : Rule} (plain : rule.IsPlain) (next : Nat) :
    (∃ compiled, (ofRule next rule).1.compile = .ok compiled ∧ compiled.SameUpToOrder rule) ↔
      rule.IsCanonical := by
  constructor
  · rintro ⟨compiled, succeeds, same⟩
    exact (isCanonical_of_compile succeeds).reorder same
  · intro canonical
    rcases compileConditions_ofConditions canonical.conditions plain.conditions with
      ⟨conditions, compiledConditions, sameConditions⟩
    rcases compileActions_expandActions canonical.actions plain.actions next with
      ⟨actions, compiledActions, sameActions⟩
    have compiledParams := compileTriggerParams_ofRule plain.triggerParams next
    have filled : actions ≠ [] := by
      rintro rfl
      exact canonical.filled (List.forall₂_nil_left_iff.mp sameActions)
    have name : (ofRule next rule).1.name = rule.name := textOr_of_isTidyText canonical.name ""
    have triggerType : (ofRule next rule).1.triggerType = rule.trigger.type :=
      textOr_of_isTidyText canonical.triggerType Catalog.defaultTriggerType
    rcases canonical.name with ⟨nameText, isName, tidyName⟩
    rcases canonical.triggerType with ⟨typeText, isType, tidyType⟩
    rcases canonical.active with ⟨on, isActive⟩
    have trimmedName : (ofRule next rule).1.name.trimmedText = nameText.toList := by
      rw [name, isName, Json.IsTidyText.trimmedText_eq ⟨nameText, rfl, tidyName⟩]
    have trimmedType : (ofRule next rule).1.triggerType.trimmedText = typeText.toList := by
      rw [triggerType, isType, Json.IsTidyText.trimmedText_eq ⟨typeText, rfl, tidyType⟩]
    refine ⟨(ofRule next rule).1.assemble rule.trigger.params conditions actions,
      compile_eq_ok_iff.mpr ⟨by rw [trimmedName]; exact tidyName.1,
        by rw [trimmedType]; exact tidyType.1, _, _, _, compiledParams, compiledConditions,
        compiledActions, filled, rfl⟩, ?_⟩
    exact {
      id := rfl
      name := by rw [assemble, trimmedName, String.ofList_toList, isName]
      active := by
        have shown : (ofRule next rule).1.active = .bool rule.isActive := rfl
        rw [assemble, shown, Rule.isActive, isActive]
        cases on <;> rfl
      triggerType := by rw [assemble, trimmedType, String.ofList_toList, isType]
      triggerParams := Or.inl rfl
      conditions := sameConditions
      actions := sameActions }

end Draft

namespace Rule

/-- A rule whose parameters and conditions do not stand in the order of the catalog. -/
def reminder : Rule where
  id := .int 7
  name := .str "Remind"
  active := .bool false
  trigger := ⟨.str "form_submit", .obj [("form", .null)],
    .obj [("no_activity_since_minutes", .int 15), ("form_id_is", .str "f")]⟩
  actions := [⟨.str "create_task", .obj [("delayMinutes", .int 0), ("title", .str "Call")]⟩]

/-- `Rule.reminder` with parameters and conditions in the order of the catalog. -/
def sortedReminder : Rule :=
  { reminder with
    trigger := ⟨.str "form_submit", .obj [("form", .null)],
      .obj [("form_id_is", .str "f"), ("no_activity_since_minutes", .int 15)]⟩
    actions := [⟨.str "create_task", .obj [("title", .str "Call"), ("delayMinutes", .int 0)]⟩] }

theorem reminder_isPlain : reminder.IsPlain where
  triggerParams := .obj (by decide) (by simpa using .null)
  conditions := .obj (by decide) (by
    simpa using ⟨Json.IsPlain.int (by decide +kernel), Json.IsPlain.str "f"⟩)
  actions := by
    simpa [reminder] using Json.IsPlain.obj (by decide) (by
      simpa using ⟨Json.IsPlain.int (by decide +kernel), Json.IsPlain.str "Call"⟩)

theorem sortedReminder_sameUpToOrder : sortedReminder.SameUpToOrder reminder where
  id := rfl
  name := rfl
  active := rfl
  triggerType := rfl
  triggerParams := Or.inl rfl
  conditions := Or.inr ⟨_, _, rfl, rfl, .swap _ _ _⟩
  actions := .cons ⟨rfl, Or.inr ⟨_, _, rfl, rfl, .swap _ _ _⟩⟩ .nil

theorem reminder_isCanonical : reminder.IsPlain ∧ reminder.IsCanonical :=
  ⟨reminder_isPlain, (Draft.compile_ofRule_iff reminder_isPlain 0).mp
    ⟨sortedReminder, by decide +kernel, sortedReminder_sameUpToOrder⟩⟩

end Rule

end Rulebook
