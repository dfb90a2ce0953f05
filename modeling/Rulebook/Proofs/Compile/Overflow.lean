import Mathlib
import Rulebook.Proofs.Compile.FirstFailure
import Rulebook.Proofs.Text.LeadingNumber

/-!
# Numbers that are too long

Fields of numbers are read leniently: what is no number counts as zero. The one text that cannot be
read at all begins with more digits than are converted, and the failure that it leads to is not
among those that say what is wrong with a draft. This file says of every draft, with nothing assumed
about its numbers, at which field compiling it stops; that a text of this kind is the only thing
that leads to another failure can be read off, as long as there is room for the JSON texts.
-/

namespace Rulebook

/-- The text begins with a number of so many digits, which are more than are converted. -/
def HasLongNumber (text : List Char) (count : Nat) : Prop :=
  ∃ number ∈ leadingInteger? (Text.trim text),
    number.2.length = count ∧ Json.digitLimit < count

namespace ActionDraft

/-- Where compiling a parameter stops: something is wrong with it, or its number is too long. -/
inductive ParamStops (action : ActionDraft) (kind : String) (param : Param) : Failure → Prop
  | wrong {failure : Failure} (fails : action.ParamFails kind param failure) :
      ParamStops action kind param failure
  | long {count : Nat} (shape : param.shape = .integer)
      (long : HasLongNumber (action.text param.field) count) :
      ParamStops action kind param (.tooManyDigits count)

/-- Where compiling an action stops: at the one parameter of an unknown kind, or at the first
parameter of its kind at which it stops. -/
inductive Stops (action : ActionDraft) : Failure → Prop
  | unknown {message : List Char} (filled : action.kind ≠ [])
      (unknown : Catalog.actionType? (String.ofList action.kind) = none)
      (faulty : Json.IsFaulty (action.text Catalog.unknownField) message) :
      Stops action (action.jsonFailure Catalog.unknownParams message)
  | known {entry : ActionType} {failure : Failure} (filled : action.kind ≠ [])
      (known : Catalog.actionType? (String.ofList action.kind) = some entry)
      (first : Scan.FirstFails (action.ParamStops (String.ofList action.kind)) entry.params
        failure) :
      Stops action failure

end ActionDraft

/-- Compiling conditions stops only at numbers of minutes that are too long. -/
inductive ConditionDraft.KeyStops (conditions : ConditionDraft) (key : ConditionKey) : Failure → Prop
  | long {count : Nat} (numeric : key.isNumeric = true)
      (long : HasLongNumber (conditions.field key).filledText count) :
      KeyStops conditions key (.tooManyDigits count)

namespace Draft

/-- All numbers of minutes in the conditions are short. -/
def HasShortConditions (draft : Draft) : Prop :=
  ∀ conditions ∈ draft.conditions, ∀ key ∈ ConditionKey.all, key.isNumeric = true →
    HasShortNumber (conditions.field key).filledText

/-- Where compiling a draft stops, in the order in which it goes through its fields. -/
inductive Stops (draft : Draft) : Failure → Prop
  | header {failure : Failure} (fails : draft.HeaderFails failure) : Stops draft failure
  | condition {conditions : ConditionDraft} {failure : Failure} (trigger : draft.HasTrigger)
      (held : draft.conditions = some conditions)
      (first : Scan.FirstFails conditions.KeyStops ConditionKey.all failure) : Stops draft failure
  | action {failure : Failure} (trigger : draft.HasTrigger) (short : draft.HasShortConditions)
      (first : Scan.FirstFails ActionDraft.Stops draft.actions failure) : Stops draft failure
  | noAction (trigger : draft.HasTrigger) (short : draft.HasShortConditions)
      (blank : ∀ action ∈ draft.actions, action.kind = []) : Stops draft .actionRequired

end Draft

/-! ## Numbers -/

theorem hasShortNumber_iff {text : List Char} :
    HasShortNumber text ↔ ∀ count, ¬HasLongNumber text count := by
  constructor
  · rintro short count ⟨number, leading, rfl, long⟩
    exact absurd long (Nat.not_lt.mpr (short number leading))
  · intro notLong number leading
    by_contra long
    exact notLong _ ⟨number, leading, rfl, Nat.not_le.mp long⟩

theorem hasLongNumber_trim {text : List Char} {count : Nat} :
    HasLongNumber (Text.trim text) count ↔ HasLongNumber text count := by
  rw [HasLongNumber, HasLongNumber, Text.trim_trim]

theorem HasLongNumber.trim_ne_nil {text : List Char} {count : Nat}
    (long : HasLongNumber text count) : Text.trim text ≠ [] := by
  rcases long with ⟨number, leading, _⟩
  intro blank
  rw [blank] at leading
  cases leading

/-- Reading leniently fails only for a number that is too long. -/
theorem lenientNat_eq_error_iff {text : List Char} {failure : Failure} :
    lenientNat text = .error failure ↔
      ∃ count, HasLongNumber text count ∧ failure = .tooManyDigits count := by
  rw [lenientNat]
  cases leading : leadingInteger? (Text.trim text) with
  | none => simp [HasLongNumber, leading]
  | some number =>
      rcases number with ⟨negative, digits⟩
      by_cases long : Json.digitLimit < digits.length
      · simp only [long, if_true, Except.error.injEq]
        constructor
        · rintro rfl
          exact ⟨digits.length, ⟨(negative, digits), leading, rfl, long⟩, rfl⟩
        · rintro ⟨count, ⟨other, otherLeading, rfl, _⟩, rfl⟩
          rw [leading] at otherLeading
          cases otherLeading
          rfl
      · simp only [long, if_false, reduceCtorEq, false_iff]
        rintro ⟨count, ⟨other, otherLeading, rfl, otherLong⟩, _⟩
        rw [leading] at otherLeading
        cases otherLeading
        exact long otherLong

theorem exists_lenientNat_iff {text : List Char} :
    (∃ number, lenientNat text = .ok number) ↔ HasShortNumber text := by
  refine ⟨?_, exists_lenientNat⟩
  rintro ⟨number, read⟩
  rw [hasShortNumber_iff]
  intro count long
  rw [lenientNat_eq_error_iff.mpr ⟨count, long, rfl⟩] at read
  cases read

/-! ## Parameters and actions -/

namespace ActionDraft

variable {action : ActionDraft} {kind : String} {param : Param} {failure : Failure}

theorem compileParam_eq_error_iff_of_integer (shape : param.shape = .integer) :
    action.compileParam param = .error failure ↔
      ∃ count, HasLongNumber (action.text param.field) count ∧ failure = .tooManyDigits count := by
  simp only [compileParam, shape, List.isEmpty_iff]
  split
  · next blank =>
    simp only [reduceCtorEq, false_iff]
    rintro ⟨count, long, _⟩
    exact long.trim_ne_nil blank
  · have read : lenientNat (Text.trim (action.text param.field)) = .error failure ↔
        ∃ count, HasLongNumber (action.text param.field) count ∧ failure = .tooManyDigits count := by
      simp only [lenientNat_eq_error_iff, hasLongNumber_trim]
    rw [← read]
    cases lenientNat (Text.trim (action.text param.field)) <;> simp

theorem compileBinding_eq_error_iff_of_optional (optional : param.required = false) :
    action.compileBinding kind param = .error failure ↔
      action.compileParam param = .error failure := by
  rw [compileBinding]
  cases action.compileParam param with
  | error other => simp
  | ok value => simp [optional]

theorem compileBinding_eq_error_iff_paramStops (sound : param.IsSound) :
    action.compileBinding kind param = .error failure ↔ action.ParamStops kind param failure := by
  by_cases integer : param.shape = .integer
  · have optional : param.required = false := by
      rw [← Bool.not_eq_true]
      intro required
      rw [sound.required required] at integer
      cases integer
    rw [compileBinding_eq_error_iff_of_optional optional,
      compileParam_eq_error_iff_of_integer integer]
    constructor
    · rintro ⟨count, long, rfl⟩
      exact .long integer long
    · intro stops
      cases stops with
      | long _ long => exact ⟨_, long, rfl⟩
      | wrong fails =>
          cases fails with
          | missing required _ =>
              rw [optional] at required
              cases required
          | faulty json _ =>
              rw [integer] at json
              cases json
  · rw [compileBinding_eq_error_iff sound fun shape => absurd shape integer]
    constructor
    · exact .wrong
    · intro stops
      cases stops with
      | wrong fails => exact fails
      | long shape _ => exact absurd shape integer

/-- Compiling an action stops where it is said to, and nowhere else. -/
theorem compile_eq_error_iff_stops : action.compile = .error failure ↔ action.Stops failure := by
  have each : ∀ entry ∈ Catalog.actionType? (String.ofList action.kind), ∀ param ∈ entry.params,
      ∀ failure, action.compileBinding (String.ofList action.kind) param = .error failure ↔
        action.ParamStops (String.ofList action.kind) param failure := by
    intro entry held param mem failure
    exact compileBinding_eq_error_iff_paramStops
      (Catalog.isSound_of_mem entry (Catalog.mem_of_actionType? held) param mem)
  rw [compile_eq_error_iff_of_params each]
  constructor
  · rintro (⟨filled, unknown, message, faulty, rfl⟩ | ⟨filled, entry, known, first⟩)
    · exact .unknown filled unknown faulty
    · exact .known filled known first
  · intro stops
    cases stops with
    | unknown filled unknown faulty => exact Or.inl ⟨filled, unknown, _, faulty, rfl⟩
    | known filled known first => exact Or.inr ⟨filled, _, known, first⟩

end ActionDraft

theorem compileActions_eq_error_iff_stops {actions : List ActionDraft} {failure : Failure} :
    compileActions actions = .error failure ↔ Scan.FirstFails ActionDraft.Stops actions failure := by
  rw [compileActions_eq_filterMapM]
  exact Scan.filterMapM_eq_error_iff_firstFails fun _ _ _ => ActionDraft.compile_eq_error_iff_stops

/-! ## Conditions -/

namespace ConditionDraft

variable {conditions : ConditionDraft} {key : ConditionKey} {failure : Failure}

theorem filledText_set (text : List Char) :
    ((conditions.set key (.str (String.ofList text))).field key).filledText = text := by
  simp [set, Json.filledText_str]

theorem compileKey_eq_error_iff :
    conditions.compileKey key = .error failure ↔ conditions.KeyStops key failure := by
  have keyStops_iff : conditions.KeyStops key failure ↔ key.isNumeric = true ∧
      ∃ count, HasLongNumber (conditions.field key).filledText count ∧
        failure = .tooManyDigits count := by
    constructor
    · rintro ⟨numeric, long⟩
      exact ⟨numeric, _, long, rfl⟩
    · rintro ⟨numeric, count, long, rfl⟩
      exact .long numeric long
  rw [keyStops_iff, compileKey, trimmed, Json.trimmedText]
  split
  · next blank =>
    simp only [reduceCtorEq, false_iff]
    rintro ⟨_, count, long, _⟩
    exact long.trim_ne_nil (List.isEmpty_iff.mp blank)
  by_cases numeric : key.isNumeric = true
  · rw [compileValue_of_isNumeric numeric, Scan.map_eq_error_iff, Scan.map_eq_error_iff,
      lenientNat_eq_error_iff]
    simp only [hasLongNumber_trim, numeric, true_and]
  · rw [compileValue_of_text numeric]
    simp [Except.map, numeric]

theorem compile_eq_error_iff :
    conditions.compile = .error failure ↔
      Scan.FirstFails conditions.KeyStops ConditionKey.all failure := by
  rw [← Scan.filterMapM_eq_error_iff_firstFails fun _ _ _ => compileKey_eq_error_iff, compile,
    compileKeys_eq_filterMapM]
  cases ConditionKey.all.filterMapM conditions.compileKey with
  | error other => simp
  | ok fields => cases fields <;> simp

end ConditionDraft

namespace Draft

variable {draft : Draft} {failure : Failure}

theorem exists_compileConditions_iff :
    (∃ compiled, compileConditions draft.conditions = .ok compiled) ↔ draft.HasShortConditions := by
  refine ⟨?_, exists_compileConditions⟩
  rintro ⟨compiled, succeeds⟩ conditions held key mem numeric
  rw [Option.mem_def] at held
  rw [held, compileConditions, ConditionDraft.compile_eq_ok_iff] at succeeds
  rcases succeeds with ⟨fields, scanned, _⟩
  rcases Scan.exists_ok_of_mem scanned key mem with ⟨binding, passed⟩
  rw [hasShortNumber_iff]
  intro count long
  rw [ConditionDraft.compileKey_eq_error_iff.mpr (.long numeric long)] at passed
  cases passed

/-! ## Drafts -/

theorem HasTrigger.stops_of_compile (trigger : draft.HasTrigger)
    (failed : draft.compile = .error failure) : draft.Stops failure := by
  rcases trigger.exists_compile_eq with ⟨params, decided⟩
  rw [decided] at failed
  cases compiled : compileConditions draft.conditions with
  | error other =>
      rw [compiled] at failed
      cases failed
      cases held : draft.conditions with
      | none =>
          rw [held] at compiled
          cases compiled
      | some conditions =>
          rw [held] at compiled
          exact .condition trigger held (ConditionDraft.compile_eq_error_iff.mp compiled)
  | ok conditions =>
      have short := exists_compileConditions_iff.mp ⟨conditions, compiled⟩
      rw [compiled] at failed
      cases compiledActions : compileActions draft.actions with
      | error other =>
          rw [compiledActions] at failed
          cases failed
          exact .action trigger short (compileActions_eq_error_iff_stops.mp compiledActions)
      | ok actions =>
          rw [compiledActions] at failed
          cases actions with
          | nil =>
              cases failed
              exact .noAction trigger short (compileActions_eq_nil_iff.mp compiledActions)
          | cons first rest => cases failed

theorem stops_of_compile (failed : draft.compile = .error failure) : draft.Stops failure := by
  rcases draft.hasTrigger_or_headerFails with trigger | ⟨other, header⟩
  · exact trigger.stops_of_compile failed
  · rw [compile_of_headerFails header] at failed
    cases failed
    exact .header header

theorem compile_of_stops (stops : draft.Stops failure) : draft.compile = .error failure := by
  cases stops with
  | header fails => exact compile_of_headerFails fails
  | condition trigger held first =>
      rcases trigger.exists_compile_eq with ⟨params, decided⟩
      rw [decided, held, compileConditions, ConditionDraft.compile_eq_error_iff.mpr first]
  | action trigger short first =>
      rcases trigger.exists_compile_eq with ⟨params, decided⟩
      rcases exists_compileConditions_iff.mpr short with ⟨conditions, compiled⟩
      rw [decided, compiled, compileActions_eq_error_iff_stops.mpr first]
  | noAction trigger short blank =>
      rcases trigger.exists_compile_eq with ⟨params, decided⟩
      rcases exists_compileConditions_iff.mpr short with ⟨conditions, compiled⟩
      rw [decided, compiled, compileActions_eq_nil_iff.mpr blank]

/-- Compiling a draft stops where it is said to, and nowhere else. -/
theorem compile_eq_error_iff_stops : draft.compile = .error failure ↔ draft.Stops failure :=
  ⟨stops_of_compile, compile_of_stops⟩

/-! ## Failures of another kind -/

end Draft

theorem ActionDraft.ParamStops.isRuleValidation_or {action : ActionDraft} {kind : String}
    {param : Param} {failure : Failure} (stops : action.ParamStops kind param failure) :
    failure.isRuleValidation = true ∨ ∃ count, failure = .tooManyDigits count := by
  cases stops with
  | wrong fails => cases fails <;> exact Or.inl rfl
  | long _ _ => exact Or.inr ⟨_, rfl⟩

theorem ActionDraft.Stops.isRuleValidation_or {action : ActionDraft} {failure : Failure}
    (stops : action.Stops failure) :
    failure.isRuleValidation = true ∨ ∃ count, failure = .tooManyDigits count := by
  cases stops with
  | unknown _ _ _ => exact Or.inl rfl
  | known _ _ first =>
      rcases first with ⟨_, _, _, _, _, paramStops⟩
      exact paramStops.isRuleValidation_or

namespace Draft

theorem Stops.isRuleValidation_or {draft : Draft} {failure : Failure} (stops : draft.Stops failure) :
    failure.isRuleValidation = true ∨ ∃ count, failure = .tooManyDigits count := by
  cases stops with
  | header fails => cases fails <;> exact Or.inl rfl
  | condition _ _ first =>
      rcases first with ⟨_, _, _, _, _, keyStops⟩
      cases keyStops with
      | long _ _ => exact Or.inr ⟨_, rfl⟩
  | action _ _ first =>
      rcases first with ⟨_, _, _, _, _, actionStops⟩
      exact actionStops.isRuleValidation_or
  | noAction _ _ _ => exact Or.inl rfl

theorem isRuleValidation_iff (draft : Draft) :
    (∀ failure, draft.compile = .error failure → failure.isRuleValidation = true) ↔
      ∀ count, ¬draft.Stops (.tooManyDigits count) := by
  constructor
  · intro validates count stops
    cases validates _ (compile_of_stops stops)
  · intro converts failure failed
    rcases (stops_of_compile failed).isRuleValidation_or with validation | ⟨count, rfl⟩
    · exact validation
    · exact absurd (stops_of_compile failed) (converts count)

/-- Where there is room for its JSON texts, compiling a draft fails for something that is wrong with
it, unless it comes to a number that is too long before anything wrong. Conditions compile exactly
if none of their numbers is too long, and a text is read as a number exactly if it does not begin
with one that is; where it begins with none, as zero. -/
theorem compile_fails_by_validation_iff (draft : Draft) :
    (draft.IsShallow →
      (∀ failure, draft.compile = .error failure ↔ draft.Stops failure) ∧
      ((∀ failure, draft.compile = .error failure → failure.isRuleValidation = true) ↔
        ∀ count, ¬draft.Stops (.tooManyDigits count))) ∧
    ((∃ compiled, compileConditions draft.conditions = .ok compiled) ↔ draft.HasShortConditions) ∧
    ∀ text, ((∃ number, lenientNat text = .ok number) ↔ HasShortNumber text) ∧
      (leadingInteger? (Text.trim text) = none → lenientNat text = .ok 0) := by
  refine ⟨fun _ => ⟨fun _ => compile_eq_error_iff_stops, draft.isRuleValidation_iff⟩,
    exists_compileConditions_iff, ?_⟩
  intro text
  refine ⟨exists_lenientNat_iff, ?_⟩
  intro noNumber
  rw [lenientNat, noNumber]

/-- A number that is too long behind a field that is missing is never come to, and text without
digits is zero. -/
theorem masked_fails_by_validation :
    masked.IsShallow ∧
      (∀ failure, masked.compile = .error failure → failure.isRuleValidation = true) ∧
      leadingInteger? (Text.trim "soon 15".toList) = none ∧ lenientNat "soon 15".toList = .ok 0 := by
  have converts : ∀ count, ¬masked.Stops (.tooManyDigits count) := by
    intro count stops
    have failed := compile_of_stops stops
    have other : masked.compile = .error (.missingActionParam (.str "url") (.str "send_webhook")
        (.str "act_2")) := by
      decide +kernel
    rw [other] at failed
    cases failed
  have shallow : masked.IsShallow := by decide +kernel
  have noNumber : leadingInteger? (Text.trim "soon 15".toList) = none := by decide
  rcases compile_fails_by_validation_iff masked with ⟨decided, _, reads⟩
  exact ⟨shallow, (decided shallow).2.mpr converts, noNumber, (reads _).2 noNumber⟩

theorem hasLongNumber_replicate {count : Nat} (long : Json.digitLimit < count) :
    HasLongNumber (List.replicate count '1') count := by
  have filled : count ≠ 0 := by omega
  rcases Nat.exists_eq_succ_of_ne_zero filled with ⟨more, rfl⟩
  have plain : ∀ character ∈ List.replicate (more + 1) '1', Json.isPlainDigit character = true := by
    intro character mem
    rw [List.eq_of_mem_replicate mem]
    rfl
  have trimmed := (Text.isTidy_of_isPlainDigit (by simp) plain).2
  have begins := BeginsWithNumber.of_isPlainDigit (by simp) plain
  refine ⟨(false, (List.replicate (more + 1) '1').map Text.valueOf), ?_, by simp, long⟩
  rw [Nat.succ_eq_add_one, trimmed]
  exact begins.leadingInteger?

/-- A draft in order, but for the number of minutes that a lead has been inactive, which has one
digit too many. -/
def overlong : Draft :=
  { masked with
    conditions := some (ConditionDraft.blank.set .noActivity
      (.str (String.ofList (List.replicate 4301 '1')))) }

theorem overlong_stops : overlong.Stops (.tooManyDigits 4301) := by
  refine .condition ⟨masked_hasTrigger.named, masked_hasTrigger.typed, masked_hasTrigger.readable⟩
    rfl ⟨[.pipelineStage, .form, .segment, .noFormSubmission], .noActivity, [], rfl, ?_, ?_⟩
  · intro key mem failure stops
    rcases stops with ⟨numeric, number, leading, _⟩
    simp only [List.mem_cons, List.not_mem_nil, or_false] at mem
    rcases mem with rfl | rfl | rfl | rfl <;> cases leading
  · refine .long rfl ?_
    rw [ConditionDraft.filledText_set]
    exact hasLongNumber_replicate (by decide)

/-- Compiling it fails for none of the reasons that say what is wrong with a draft, its conditions
do not compile, and the text of the number is not read as zero. -/
theorem overlong_escapes :
    overlong.compile = .error (.tooManyDigits 4301) ∧
      Failure.isRuleValidation (.tooManyDigits 4301) = false ∧
      (¬∃ compiled, compileConditions overlong.conditions = .ok compiled) ∧
      ¬∃ number, lenientNat (List.replicate 4301 '1') = .ok number := by
  have long : HasLongNumber (List.replicate 4301 '1') 4301 := hasLongNumber_replicate (by decide)
  refine ⟨compile_of_stops overlong_stops, rfl, ?_, ?_⟩
  · rw [exists_compileConditions_iff]
    intro short
    have shortNumber := short _ rfl .noActivity (by decide) rfl
    rw [ConditionDraft.filledText_set, hasShortNumber_iff] at shortNumber
    exact shortNumber _ long
  · rw [exists_lenientNat_iff, hasShortNumber_iff]
    intro short
    exact short _ long

end Draft

end Rulebook
