import Mathlib
import Rulebook.Proofs.Compile.Steps

/-!
# The texts that compiling reads

Compiling looks at a draft through its trimmed texts only: those of its own fields, of its
conditions, and of the fields that the kind of an action has. Two drafts that agree on these come to
the same rule or the same failure, whatever blanks stand around their texts and whatever fields an
action has kept from another kind. Every field is trimmed at its own place, by the reader of its
shape; the proof follows the compiler from the fields outwards.
-/

namespace Rulebook

/-- The parameters whose fields an action of a kind has. -/
def Catalog.schemaParams (kind : String) : List Param :=
  match actionType? kind with
  | some entry => entry.params
  | none => [unknownParams]

/-- What is left of the field of a condition without the blanks around it. A draft without
conditions has blank ones. -/
def conditionText (conditions : Option ConditionDraft) (key : ConditionKey) : List Char :=
  (conditions.getD .blank).trimmed key

/-- The actions have the same local id, the same kind, and the same texts in the fields of their
kind, up to blanks around them. -/
structure ActionDraft.SameTexts (left right : ActionDraft) : Prop where
  localId : left.localId = right.localId
  kind : left.kind = right.kind
  texts : ∀ param ∈ Catalog.schemaParams (String.ofList left.kind),
    Text.trim (left.text param.field) = Text.trim (right.text param.field)

/-- The drafts have the same identity and switch, and the same texts up to blanks around them. -/
structure Draft.SameTexts (left right : Draft) : Prop where
  id : left.id = right.id
  active : left.active.isTruthy = right.active.isTruthy
  name : left.name.trimmedText = right.name.trimmedText
  triggerType : left.triggerType.trimmedText = right.triggerType.trimmedText
  triggerParams : left.triggerParams.trimmedText = right.triggerParams.trimmedText
  conditions : ∀ key, conditionText left.conditions key = conditionText right.conditions key
  actions : List.Forall₂ ActionDraft.SameTexts left.actions right.actions

/-! ## From the fields outwards -/

theorem Json.parseTyped_congr {left right : List Char} (same : Text.trim left = Text.trim right) :
    parseTyped left = parseTyped right := by
  rw [parseTyped, parseTyped, same]

namespace ActionDraft

variable {left right : ActionDraft}

theorem compileJson_congr (sameId : left.localId = right.localId) {param : Param}
    (same : Text.trim (left.text param.field) = Text.trim (right.text param.field)) :
    left.compileJson param = right.compileJson param := by
  rw [compileJson, compileJson, Json.parseTyped_congr same, sameId]

theorem compileParam_congr (sameId : left.localId = right.localId) {param : Param}
    (same : Text.trim (left.text param.field) = Text.trim (right.text param.field)) :
    left.compileParam param = right.compileParam param := by
  simp only [compileParam, same, compileJson_congr sameId same]

theorem compileParams_congr (sameId : left.localId = right.localId) (kind : String)
    {params : List Param} (same : ∀ param ∈ params,
      Text.trim (left.text param.field) = Text.trim (right.text param.field)) :
    left.compileParams kind params = right.compileParams kind params := by
  induction params with
  | nil => rfl
  | cons param params ih =>
      rw [List.forall_mem_cons] at same
      rw [compileParams, compileParams, compileParam_congr sameId same.1, ih same.2, sameId]

theorem SameTexts.compile_eq (same : left.SameTexts right) : left.compile = right.compile := by
  have texts := same.texts
  simp only [compile, ← same.kind]
  split
  · rfl
  cases known : Catalog.actionType? (String.ofList left.kind) with
  | none =>
      simp only [Catalog.schemaParams, known, List.forall_mem_singleton] at texts
      rw [compileJson_congr same.localId texts]
  | some entry =>
      simp only [Catalog.schemaParams, known] at texts
      simp only [compileParams_congr same.localId _ texts]

end ActionDraft

theorem compileActions_congr {left right : List ActionDraft}
    (same : List.Forall₂ ActionDraft.SameTexts left right) :
    compileActions left = compileActions right := by
  induction same with
  | nil => rfl
  | cons first _ ih => rw [compileActions, compileActions, first.compile_eq, ih]

theorem passedKinds_congr {left right : List ActionDraft}
    (same : List.Forall₂ ActionDraft.SameTexts left right) :
    passedKinds left = passedKinds right := by
  induction same with
  | nil => rfl
  | cons first _ ih => rw [passedKinds, passedKinds, first.compile_eq, ih]

namespace ConditionDraft

theorem compileKeys_congr {left right : ConditionDraft}
    (same : ∀ key, left.trimmed key = right.trimmed key) (keys : List ConditionKey) :
    left.compileKeys keys = right.compileKeys keys := by
  induction keys with
  | nil => rfl
  | cons key keys ih => rw [compileKeys, compileKeys, same key, ih]

theorem compile_congr {left right : ConditionDraft}
    (same : ∀ key, left.trimmed key = right.trimmed key) : left.compile = right.compile := by
  rw [compile, compile, compileKeys_congr same]

end ConditionDraft

theorem compileConditions_eq_getD (conditions : Option ConditionDraft) :
    compileConditions conditions = (conditions.getD .blank).compile := by
  cases conditions with
  | none => rfl
  | some draft => rfl

namespace Draft

theorem SameTexts.compile_eq {left right : Draft} (same : left.SameTexts right) :
    left.compile = right.compile := by
  have params : left.compileTriggerParams = right.compileTriggerParams := by
    rw [compileTriggerParams, compileTriggerParams, Json.parseTyped_congr same.triggerParams]
  have conditions : compileConditions left.conditions = compileConditions right.conditions := by
    rw [compileConditions_eq_getD, compileConditions_eq_getD]
    exact ConditionDraft.compile_congr same.conditions
  simp only [compile, same.name, same.triggerType, params, conditions,
    compileActions_congr same.actions, same.id, same.active]

theorem SameTexts.passedKinds_eq {left right : Draft} (same : left.SameTexts right) :
    left.passedKinds = right.passedKinds := by
  have without : SameTexts { left with actions := [] } { right with actions := [] } :=
    ⟨same.id, same.active, same.name, same.triggerType, same.triggerParams, same.conditions, .nil⟩
  rw [passedKinds, passedKinds, without.compile_eq, passedKinds_congr same.actions]

end Draft

/-! ## Blanks around texts, and fields of other kinds -/

/-- The second value is the text of the first with blanks around it, or with none. -/
def Json.PadsTo (plain padded : Json) : Prop :=
  ∃ before text after : String,
    before.toList.all Text.isBlank = true ∧ after.toList.all Text.isBlank = true ∧
      plain = .str text ∧ padded = .str (before ++ text ++ after)

theorem Json.PadsTo.trimmedText_eq {plain padded : Json} (pads : plain.PadsTo padded) :
    plain.trimmedText = padded.trimmedText := by
  rcases pads with ⟨before, text, after, blankBefore, blankAfter, rfl, rfl⟩
  rw [trimmedText_str, trimmedText_str, String.toList_append, String.toList_append,
    Text.trim_append_of_isBlank _ (List.all_eq_true.mp blankAfter),
    Text.trim_of_isBlank_append _ (List.all_eq_true.mp blankBefore)]

/-- The second action has blanks around the texts of the first, and any other fields than those of
its kind. -/
structure ActionDraft.PadsTo (plain padded : ActionDraft) : Prop where
  localId : plain.localId = padded.localId
  type : plain.type.PadsTo padded.type
  fields : ∀ param ∈ Catalog.schemaParams (String.ofList plain.kind),
    Option.Rel Json.PadsTo (plain.fields.get? param.field) (padded.fields.get? param.field)

/-- The second draft has blanks around the texts of the first, and its actions may have fields that
their kinds do not have. -/
structure Draft.PadsTo (plain padded : Draft) : Prop where
  id : plain.id = padded.id
  active : plain.active = padded.active
  name : plain.name.PadsTo padded.name
  triggerType : plain.triggerType.PadsTo padded.triggerType
  triggerParams : plain.triggerParams.PadsTo padded.triggerParams
  conditions : Option.Rel (fun plain padded => ∀ key, (plain.field key).PadsTo (padded.field key))
    plain.conditions padded.conditions
  actions : List.Forall₂ ActionDraft.PadsTo plain.actions padded.actions

theorem ActionDraft.PadsTo.sameTexts {plain padded : ActionDraft} (pads : plain.PadsTo padded) :
    plain.SameTexts padded where
  localId := pads.localId
  kind := pads.type.trimmedText_eq
  texts := by
    intro param mem
    have field := pads.fields param mem
    simp only [text, Json.Fields.get]
    generalize plain.fields.get? param.field = held,
      padded.fields.get? param.field = padding at field ⊢
    cases field with
    | none => rfl
    | some around =>
        have same := around.trimmedText_eq
        rcases around with ⟨_, _, _, _, _, rfl, rfl⟩
        rwa [Json.trimmedText_str, Json.trimmedText_str] at same

theorem Draft.PadsTo.sameTexts {plain padded : Draft} (pads : plain.PadsTo padded) :
    plain.SameTexts padded where
  id := pads.id
  active := congrArg Json.isTruthy pads.active
  name := pads.name.trimmedText_eq
  triggerType := pads.triggerType.trimmedText_eq
  triggerParams := pads.triggerParams.trimmedText_eq
  conditions := by
    intro key
    have conditions := pads.conditions
    generalize plain.conditions = held, padded.conditions = padding at conditions ⊢
    cases conditions with
    | some each => exact (each key).trimmedText_eq
    | none => rfl
  actions := pads.actions.imp fun _ _ => ActionDraft.PadsTo.sameTexts

namespace Draft

/-- Compiling depends on the trimmed texts of the fields that the kinds of the actions have, for the
rule, for the failure with all its details, and for the kinds that are reported. Blanks around texts
and fields of other kinds are never seen. -/
theorem compile_reads_trimmed_texts :
    (∀ left right : Draft, left.SameTexts right →
      left.compile = right.compile ∧ left.passedKinds = right.passedKinds) ∧
    ∀ plain padded : Draft, plain.PadsTo padded →
      padded.compile = plain.compile ∧ padded.passedKinds = plain.passedKinds := by
  have reads : ∀ left right : Draft, left.SameTexts right →
      left.compile = right.compile ∧ left.passedKinds = right.passedKinds :=
    fun left right same => ⟨same.compile_eq, same.passedKinds_eq⟩
  refine ⟨reads, ?_⟩
  intro plain padded pads
  rcases reads plain padded pads.sameTexts with ⟨compiled, passed⟩
  exact ⟨compiled.symm, passed.symm⟩

/-- A draft without conditions whose webhook has a body that is not JSON. -/
def webhook : Draft where
  id := .str "7"
  name := .str "Welcome"
  active := .bool true
  triggerType := .str "lead_created"
  triggerParams := .str ""
  conditions := none
  actions := [⟨.str "send_webhook",
    [("url", .str "https://example.com"), ("body_text", .str "[1,]")], .str "act_1"⟩]

/-- The same with blank conditions, blanks of several scripts around its texts, and a field of
another kind. -/
def webhookPadded : Draft where
  id := .str "7"
  name := .str "\u3000Welcome\n"
  active := .bool true
  triggerType := .str "lead_created\u2003"
  triggerParams := .str "\t"
  conditions := some .blank
  actions := [⟨.str " send_webhook", [("subject", .str "Hello"),
    ("url", .str "https://example.com\u00a0"), ("body_text", .str "\n  [1,]")], .str "act_1"⟩]

theorem webhook_sameTexts : webhook.SameTexts webhookPadded where
  id := rfl
  active := rfl
  name := by decide
  triggerType := by decide
  triggerParams := by decide
  conditions := fun _ => rfl
  actions := .cons ⟨rfl, by decide, by decide +kernel⟩ .nil

theorem webhook_padsTo :
    ({ webhook with conditions := some .blank } : Draft).PadsTo webhookPadded where
  id := rfl
  active := rfl
  name := ⟨"\u3000", "Welcome", "\n", by decide, by decide, rfl, rfl⟩
  triggerType := ⟨"", "lead_created", "\u2003", by decide, by decide, rfl, rfl⟩
  triggerParams := ⟨"\t", "", "", by decide, by decide, rfl, rfl⟩
  conditions := .some fun _ => ⟨"", "", "", by decide, by decide, rfl, rfl⟩
  actions := by
    have type : Json.PadsTo (.str "send_webhook") (.str " send_webhook") :=
      ⟨" ", "send_webhook", "", by decide, by decide, rfl, rfl⟩
    refine .cons ⟨rfl, type, ?_⟩ .nil
    intro param mem
    have fields : param.field = "url" ∨ param.field = "body_text" := by
      revert param
      decide +kernel
    rcases fields with same | same
    · rw [same]
      exact .some ⟨"", "https://example.com", "\u00a0", by decide, by decide, rfl, rfl⟩
    · rw [same]
      exact .some ⟨"\n  ", "[1,]", "", by decide, by decide, rfl, rfl⟩

/-- The position in the message counts from the first character that is not blank. -/
theorem webhook_compiles_alike :
    webhook.SameTexts webhookPadded ∧ webhook.compile = webhookPadded.compile ∧
      ({ webhook with conditions := some .blank } : Draft).PadsTo webhookPadded ∧
      webhookPadded.compile = ({ webhook with conditions := some .blank } : Draft).compile ∧
      webhook.compile = .error (.invalidJson .webhookBody none (.str "body_text") (.str "act_1")
        "Expecting value: line 1 column 4 (char 3)") :=
  ⟨webhook_sameTexts, (compile_reads_trimmed_texts.1 _ _ webhook_sameTexts).1,
    webhook_padsTo, (compile_reads_trimmed_texts.2 _ _ webhook_padsTo).1, by decide +kernel⟩

end Draft

end Rulebook
