import Mathlib
import Rulebook.Proofs.Compile.Expansion
import Rulebook.Proofs.Compile.FirstFailure

/-!
# Conditions and the form that shows them

What counts as a blank condition is decided in three places: where conditions are compiled, where a
form is asked whether it is blank, and where conditions are shown in a form again. The three agree
because each comes down to the step that compiles one condition. The conditions that a form compiles
to give every such step back, for they bind exactly the names of the fields that are filled in, and
their values can be shown and read again. A number of zero minutes is no blank.
-/

namespace Rulebook

/-- A text that is read as a number counts as zero: it begins with no number, with zero, or with a
negative number. -/
def CountsAsZero (text : List Char) : Prop :=
  ∀ digits rest, BeginsWithNumber (Text.trim text) false digits rest → Text.numberOf digits = 0

theorem CountsAsZero.eq_zero {text : List Char} {number : Nat} (zero : CountsAsZero text)
    (read : lenientNat text = .ok number) : number = 0 := by
  rcases eq_zero_or_begins_of_lenientNat read with none | ⟨digits, rest, begins, _, same⟩
  · exact none
  · rw [same, zero digits rest begins]

namespace ConditionDraft

/-- The form with these texts in its fields. -/
def ofTexts (texts : ConditionKey → String) : ConditionDraft :=
  ⟨fun key => .str (texts key)⟩

/-- The conditions with a text that is not blank, in the order in which they are compiled. -/
def filledKeys (texts : ConditionKey → String) : List ConditionKey :=
  ConditionKey.all.filter fun key => !(Text.trim (texts key).toList).isEmpty

/-- The texts of a form and the conditions of a rule agree on which conditions there are. -/
structure AgreesWith (texts : ConditionKey → String) (conditions : Json) : Prop where
  /-- The form counts as blank exactly if there are no conditions. -/
  isBlank : (ofTexts texts).isBlank = .ok (decide (conditions = .null))
  /-- Conditions that are there are an object that is not empty. -/
  filled : conditions ≠ .null → ∃ fields, conditions = .obj fields ∧ fields ≠ []
  /-- Its names are those of the fields that are filled in. -/
  names : conditions.fields.map Prod.fst = (filledKeys texts).map ConditionKey.name
  /-- A field of minutes that is filled in with what counts as zero is there with zero. -/
  zero : ∀ key, key.isNumeric = true → Text.trim (texts key).toList ≠ [] →
    CountsAsZero (texts key).toList → conditions.fields.get? key.name = some (.int 0)

/-! ## Blank forms -/

@[simp]
theorem trimmed_ofTexts (texts : ConditionKey → String) (key : ConditionKey) :
    (ofTexts texts).trimmed key = Text.trim (texts key).toList :=
  Json.trimmedText_str (texts key)

theorem isBlank_ofTexts (texts : ConditionKey → String) :
    (ofTexts texts).isBlank = .ok (decide (filledKeys texts = [])) := by
  rw [isBlank, filledKeys]
  induction ConditionKey.all with
  | nil => rfl
  | cons key keys ih =>
      rw [List.foldr_cons, ih]
      by_cases blank : (Text.trim (texts key).toList).isEmpty = true
      · simp [ofTexts, blank]
      · simp [ofTexts, blank]

/-! ## The step of one condition -/

section Compiled

variable {draft : ConditionDraft} {conditions : Json}

/-- Compiled conditions give back every step in which they were compiled. -/
theorem compileKey_of_compile (compiled : draft.compile = .ok conditions) (key : ConditionKey) :
    draft.compileKey key =
      .ok ((conditions.fields.get? key.name).map fun value => (key.name, value)) := by
  have distinct : conditions.fields.Distinct := by
    rcases areConditions_of_compile compiled with rfl | ⟨fields, rfl, _, distinct, _⟩
    · exact List.nodup_nil
    · exact distinct
  have scanned := scan_of_compile compiled
  rcases Scan.exists_ok_of_mem scanned key key.mem_all with ⟨result, stepped⟩
  cases result with
  | some field =>
      rcases field with ⟨name, value⟩
      obtain rfl : name = key.name := (accepts_of_compileKey stepped).1
      have mem := (Scan.mem_results_iff scanned).mpr ⟨key, key.mem_all, stepped⟩
      rw [stepped, Json.Fields.get?_of_mem distinct mem, Option.map_some]
  | none =>
      -- Only the key itself could have bound its name.
      have missing : conditions.fields.get? key.name = none := by
        rw [Json.Fields.get?_eq_none_iff]
        intro value mem
        rcases (Scan.mem_results_iff scanned).mp mem with ⟨other, _, compiledOther⟩
        cases ConditionKey.name_injective (accepts_of_compileKey compiledOther).1
        rw [stepped] at compiledOther
        cases compiledOther
      rw [stepped, missing, Option.map_none]

theorem isPlain_of_compileKey {key : ConditionKey} {field : String × Json}
    (compiled : draft.compileKey key = .ok (some field)) : field.2.IsPlain := by
  rcases compileKey_eq_ok_some_iff.mp compiled with ⟨_, value, compiledValue, rfl⟩
  by_cases numeric : key.isNumeric = true
  · rw [compileValue_of_isNumeric numeric] at compiledValue
    rcases Scan.map_eq_ok_iff.mp compiledValue with ⟨number, read, rfl⟩
    exact .int (isShort_of_lenientNat read)
  · rw [compileValue_of_text numeric] at compiledValue
    cases compiledValue
    exact .str _

theorem isPlain_of_compile (compiled : draft.compile = .ok conditions) : conditions.IsPlain := by
  rcases areConditions_of_compile compiled with rfl | ⟨fields, rfl, _, distinct, accepted⟩
  · exact .null
  · refine .obj distinct fun field mem => ?_
    rcases accepted field mem with ⟨key, name, _⟩
    have step := compileKey_of_compile compiled key
    rw [← name, Json.fields, Json.Fields.get?_of_mem distinct mem] at step
    exact isPlain_of_compileKey step

/-- A form that shows compiled conditions is compiled by the same steps. -/
theorem compileKey_ofConditions_of_compile (compiled : draft.compile = .ok conditions)
    (key : ConditionKey) : (ofConditions conditions).compileKey key = draft.compileKey key := by
  rw [compileKey_of_compile compiled, compileKey_ofConditions (areConditions_of_compile compiled)
    (isPlain_of_compile compiled)]

theorem compile_ofConditions_of_compile (compiled : draft.compile = .ok conditions) :
    (ofConditions conditions).compile = .ok conditions := by
  have steps : (ofConditions conditions).compileKey = draft.compileKey :=
    funext (compileKey_ofConditions_of_compile compiled)
  rw [compile_eq_ok_iff] at compiled ⊢
  rwa [steps]

theorem trimmed_ofConditions_eq_nil_iff (compiled : draft.compile = .ok conditions)
    (key : ConditionKey) : (ofConditions conditions).trimmed key = [] ↔ draft.trimmed key = [] := by
  rw [← compileKey_eq_ok_none_iff, compileKey_ofConditions_of_compile compiled,
    compileKey_eq_ok_none_iff]

end Compiled

/-! ## Texts and conditions -/

theorem exists_ofConditions_eq (conditions : Json) :
    ∃ texts, ofConditions conditions = ofTexts texts := by
  have shown (value : Json) : ∃ text, valueText value = .str text := by
    cases value <;> exact ⟨_, rfl⟩
  choose texts same using fun key : ConditionKey => shown (conditions.field key.name)
  exact ⟨texts, congrArg ConditionDraft.mk (funext same)⟩

variable {texts : ConditionKey → String} {conditions : Json}

theorem get?_of_countsAsZero (compiled : (ofTexts texts).compile = .ok conditions)
    {key : ConditionKey} (numeric : key.isNumeric = true)
    (filled : Text.trim (texts key).toList ≠ []) (zero : CountsAsZero (texts key).toList) :
    conditions.fields.get? key.name = some (.int 0) := by
  have step := compileKey_of_compile compiled key
  cases found : conditions.fields.get? key.name with
  | none =>
      rw [found, Option.map_none, compileKey_eq_ok_none_iff, trimmed_ofTexts] at step
      exact absurd step filled
  | some held =>
      rw [found, Option.map_some, compileKey_eq_ok_some_iff, trimmed_ofTexts,
        compileValue_of_isNumeric numeric] at step
      rcases step with ⟨_, value, compiledValue, same⟩
      cases same
      rcases Scan.map_eq_ok_iff.mp compiledValue with ⟨number, read, rfl⟩
      rw [lenientNat, Text.trim_trim, ← lenientNat] at read
      rw [zero.eq_zero read]
      rfl

/-- A form agrees with the conditions that it compiles to. -/
theorem agreesWith_of_compile (compiled : (ofTexts texts).compile = .ok conditions) :
    AgreesWith texts conditions := by
  have skipped (key : ConditionKey) : (ofTexts texts).compileKey key = .ok none ↔
      (!(Text.trim (texts key).toList).isEmpty) = false := by
    simp [compileKey_eq_ok_none_iff]
  have names : conditions.fields.map Prod.fst = (filledKeys texts).map ConditionKey.name :=
    Scan.labels_eq ConditionKey.name Prod.fst
      (fun _ _ compiled => (accepts_of_compileKey compiled).1) skipped (scan_of_compile compiled)
  have allowed := areConditions_of_compile compiled
  have blank_iff : filledKeys texts = [] ↔ conditions = .null := by
    rw [← allowed.fields_eq_nil_iff, ← List.map_eq_nil_iff (f := ConditionKey.name), ← names,
      List.map_eq_nil_iff]
  exact {
    isBlank := by rw [isBlank_ofTexts, decide_eq_decide.mpr blank_iff]
    filled := fun there => by
      rcases allowed with null | ⟨fields, same, notEmpty, _⟩
      · exact absurd null there
      · exact ⟨fields, same, notEmpty⟩
    names := names
    zero := fun _ => get?_of_countsAsZero compiled }

/-- Where no field of minutes begins with a number that is too long, a form of texts compiles and
agrees with the conditions that it compiles to. The form in which a rule with these conditions is
edited compiles to the same conditions, agrees with them, and is blank in the same fields. -/
theorem compileConditions_agrees_and_comes_back (texts : ConditionKey → String)
    (short : ∀ key, key.isNumeric = true → HasShortNumber (texts key).toList) :
    ∃ conditions, compileConditions (some (.ofTexts texts)) = .ok conditions ∧
      AgreesWith texts conditions ∧
      ∃ shown, (∀ (next : Nat) (rule : Rule), rule.trigger.conditions = conditions →
          (Draft.ofRule next rule).1.conditions = some (.ofTexts shown)) ∧
        compileConditions (some (.ofTexts shown)) = .ok conditions ∧
        AgreesWith shown conditions ∧
        ∀ key, Text.trim (shown key).toList = [] ↔ Text.trim (texts key).toList = [] := by
  obtain ⟨conditions, compiled⟩ :
      ∃ conditions, compileConditions (some (ofTexts texts)) = .ok conditions := by
    apply exists_compileConditions
    intro held same key _ numeric
    cases same
    rw [ofTexts, Json.filledText_str]
    exact short key numeric
  rcases exists_ofConditions_eq conditions with ⟨shown, same⟩
  have compiledAgain := compile_ofConditions_of_compile compiled
  rw [same] at compiledAgain
  refine ⟨conditions, compiled, agreesWith_of_compile compiled, shown, ?_, compiledAgain,
    agreesWith_of_compile compiledAgain, ?_⟩
  · rintro next rule rfl
    exact congrArg some same
  · intro key
    rw [← trimmed_ofTexts, ← trimmed_ofTexts, ← same, trimmed_ofConditions_eq_nil_iff compiled]

/-- A text with blanks around it, blank texts, a text that is no number, and a negative number. -/
def idleLead : ConditionKey → String
  | .pipelineStage => " qualified\u2003"
  | .form => "\u3000"
  | .segment => ""
  | .noFormSubmission => "soon"
  | .noActivity => "-3 days"

/-- A rule with the conditions that `idleLead` compiles to. -/
def idleLeadRule : Rule where
  id := .str "7"
  name := .str "Remind"
  active := .bool true
  trigger := ⟨.str "lead_updated", .null, .obj [("pipeline_stage_is", .str "qualified"),
    ("no_form_submission_since_minutes", .int 0), ("no_activity_since_minutes", .int 0)]⟩
  actions := [⟨.str "send_conversion", .obj []⟩]

theorem idleLead_agrees_and_comes_back :
    (∀ key, key.isNumeric = true → HasShortNumber (idleLead key).toList) ∧
      compileConditions (some (.ofTexts idleLead)) = .ok idleLeadRule.trigger.conditions ∧
      AgreesWith idleLead idleLeadRule.trigger.conditions ∧
      ∃ shown, (Draft.ofRule 1 idleLeadRule).1.conditions = some (.ofTexts shown) ∧
        shown .noFormSubmission = "0" ∧ shown .noActivity = "0" ∧
        compileConditions (some (.ofTexts shown)) = .ok idleLeadRule.trigger.conditions ∧
        AgreesWith shown idleLeadRule.trigger.conditions ∧
        ∀ key, Text.trim (shown key).toList = [] ↔ Text.trim (idleLead key).toList = [] := by
  have short : ∀ key, key.isNumeric = true → HasShortNumber (idleLead key).toList := by
    intro key _
    cases key <;> decide +kernel
  have compiled : compileConditions (some (.ofTexts idleLead)) =
      .ok idleLeadRule.trigger.conditions := by
    decide +kernel
  rcases compileConditions_agrees_and_comes_back idleLead short with
    ⟨conditions, same, agrees, shown, shows, again, agreesAgain, blank⟩
  cases same.symm.trans compiled
  have form := shows 1 idleLeadRule rfl
  have field (key : ConditionKey) :
      (ofConditions idleLeadRule.trigger.conditions).field key = .str (shown key) :=
    congrFun (congrArg ConditionDraft.field (Option.some.inj form)) key
  refine ⟨short, compiled, agrees, shown, form, ?_, ?_, again, agreesAgain, blank⟩
  · exact Json.str.inj ((field .noFormSubmission).symm.trans (by decide +kernel))
  · exact Json.str.inj ((field .noActivity).symm.trans (by decide +kernel))

end ConditionDraft

end Rulebook
