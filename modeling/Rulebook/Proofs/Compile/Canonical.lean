import Mathlib
import Rulebook.Proofs.Compile.Steps
import Rulebook.Proofs.Json.Fields
import Rulebook.Proofs.Text.Items

/-!
# Canonical rules

The backend stores more than a form can express: rules come from elsewhere, and reading a payload
repairs only its shape. A rule is *canonical* if every part of it has the one form in which
compiling writes it: texts are tidy, numbers of minutes are natural numbers, lists of texts have
items that stand on a line, JSON values are no blank scalars, and nothing is there that the catalog
does not name. Being canonical does not depend on the order of the fields of parameters and
conditions.
-/

namespace Rulebook

namespace Json

/-- The value is an integer that is not negative. -/
def IsNatural (value : Json) : Prop :=
  ∃ number : Nat, value = .int number

/-- The value is a list of texts that can be written one on a line, and there is at least one. -/
def IsItemList (value : Json) : Prop :=
  ∃ items : List (List Char), items ≠ [] ∧ (∀ item ∈ items, Text.IsItem item) ∧
    value = .arr (items.map fun item => .str (String.ofList item))

end Json

/-- The value is one that a condition can have: a number of minutes or a tidy text. -/
def ConditionKey.Accepts (key : ConditionKey) (value : Json) : Prop :=
  if key.isNumeric then value.IsNatural else value.IsTidyText

/-- The value is one that the conditions of a rule can have: `null`, or an object that is not empty
and whose fields are conditions. -/
def Json.AreConditions (value : Json) : Prop :=
  value = .null ∨ ∃ fields : Json.Fields, value = .obj fields ∧ fields ≠ [] ∧ fields.Distinct ∧
    ∀ field ∈ fields, ∃ key : ConditionKey, field.1 = key.name ∧ key.Accepts field.2

theorem Json.AreConditions.fields_eq_nil_iff {value : Json} (conditions : value.AreConditions) :
    value.fields = [] ↔ value = .null := by
  rcases conditions with rfl | ⟨fields, rfl, notEmpty, _⟩
  · simp [Json.fields]
  · simpa [Json.fields] using notEmpty

namespace Param

/-- The value is one that a parameter can have. An empty object is none where a blank field leaves
the parameter out. -/
def Accepts (param : Param) (value : Json) : Prop :=
  match param.shape with
  | .text => value.IsTidyText
  | .integer => value.IsNatural
  | .lines => value.IsItemList
  | .json => value.IsSubstantial ∧ (param.blankValue = none → value ≠ .obj [])

/-- The parameter is never left out: it may not be blank, or there is a value for a blank field. -/
def IsAlwaysThere (param : Param) : Prop :=
  param.required = true ∨ param.blankValue.isSome = true

/-- What holds of the parameters that the catalog declares: only texts are required, only JSON
values have a value for a blank field, and this value is acceptable. -/
structure IsSound (param : Param) : Prop where
  /-- Only texts are required. -/
  required : param.required = true → param.shape = .text
  /-- The value for a blank field is acceptable. -/
  blank : ∀ blank ∈ param.blankValue, param.shape = .json ∧ blank.IsSubstantial

theorem isSound_iff (param : Param) :
    param.IsSound ↔ (param.required = true → param.shape = .text) ∧
      ∀ blank ∈ param.blankValue, param.shape = .json ∧ blank.IsSubstantial :=
  ⟨fun sound => ⟨sound.required, sound.blank⟩, fun ⟨required, blank⟩ => ⟨required, blank⟩⟩

instance (param : Param) : Decidable param.IsSound :=
  decidable_of_iff' _ param.isSound_iff

end Param

namespace Catalog

theorem isSound_of_mem : ∀ entry ∈ actionTypes, ∀ param ∈ entry.params, param.IsSound := by
  decide

theorem nodup_names : ∀ entry ∈ actionTypes, (entry.params.map Param.name).Nodup := by
  decide

theorem nodup_fields : ∀ entry ∈ actionTypes, (entry.params.map Param.field).Nodup := by
  decide

theorem mem_of_actionType? {kind : String} {entry : ActionType}
    (known : actionType? kind = some entry) : entry ∈ actionTypes :=
  List.mem_of_find?_eq_some known

end Catalog

/-- The object holds parameters of a kind: no name twice, each name declared and with a value that
the declaration accepts, and everything there that is never left out. -/
structure ActionType.Admits (entry : ActionType) (fields : Json.Fields) : Prop where
  /-- No parameter is given twice. -/
  distinct : fields.Distinct
  /-- Every field is a declared parameter with an acceptable value. -/
  declared : ∀ field ∈ fields, ∃ param ∈ entry.params, field.1 = param.name ∧ param.Accepts field.2
  /-- No parameter is missing that is never left out. -/
  complete : ∀ param ∈ entry.params, param.IsAlwaysThere → ∃ value, (param.name, value) ∈ fields

/-- The value is one that the parameters of an action of a kind can have. -/
def Json.AreParams (kind : String) (value : Json) : Prop :=
  match Catalog.actionType? kind with
  | none => value.IsSubstantial
  | some entry => ∃ fields : Json.Fields, value = .obj fields ∧ entry.Admits fields

/-- The action has a tidy kind and parameters of this kind. -/
def Action.IsCanonical (action : Action) : Prop :=
  ∃ kind : String, action.type = .str kind ∧ Text.IsTidy kind.toList ∧ action.params.AreParams kind

/-- Every part of the rule has the form in which compiling writes it. -/
structure Rule.IsCanonical (rule : Rule) : Prop where
  /-- The name is a tidy text. -/
  name : rule.name.IsTidyText
  /-- The rule is switched on or off. -/
  active : ∃ on, rule.active = .bool on
  /-- The event is a tidy text. -/
  triggerType : rule.trigger.type.IsTidyText
  /-- The conditions are `null` or conditions that hold something. -/
  conditions : rule.trigger.conditions.AreConditions
  /-- There is an action. -/
  filled : rule.actions ≠ []
  /-- Every action is canonical. -/
  actions : ∀ action ∈ rule.actions, action.IsCanonical

/-! ## The order of fields -/

/-- The values are the same, up to the order of the fields if they are objects. -/
def Json.SameUpToOrder (left right : Json) : Prop :=
  left = right ∨ ∃ leftFields rightFields : Json.Fields,
    left = .obj leftFields ∧ right = .obj rightFields ∧ leftFields.Perm rightFields

/-- The actions are the same, up to the order of their parameters. -/
structure Action.SameUpToOrder (left right : Action) : Prop where
  type : left.type = right.type
  params : left.params.SameUpToOrder right.params

/-- The rules are the same, up to the order of parameters and conditions. -/
structure Rule.SameUpToOrder (left right : Rule) : Prop where
  id : left.id = right.id
  name : left.name = right.name
  active : left.active = right.active
  triggerType : left.trigger.type = right.trigger.type
  triggerParams : left.trigger.params.SameUpToOrder right.trigger.params
  conditions : left.trigger.conditions.SameUpToOrder right.trigger.conditions
  actions : List.Forall₂ Action.SameUpToOrder left.actions right.actions

theorem Json.Fields.Distinct.perm {left right : Json.Fields} (distinct : left.Distinct)
    (same : left.Perm right) : right.Distinct :=
  (same.map Prod.fst).nodup_iff.mp distinct

theorem Json.AreConditions.reorder {left right : Json} (same : left.SameUpToOrder right)
    (conditions : left.AreConditions) : right.AreConditions := by
  rcases same with rfl | ⟨leftFields, rightFields, rfl, rfl, perm⟩
  · exact conditions
  · rcases conditions with impossible | ⟨fields, same, filled, distinct, each⟩
    · cases impossible
    · cases same
      refine Or.inr ⟨rightFields, rfl, ?_, distinct.perm perm, ?_⟩
      · rintro rfl
        exact filled perm.eq_nil
      · intro field mem
        exact each field (perm.mem_iff.mpr mem)

theorem ActionType.Admits.perm {entry : ActionType} {left right : Json.Fields}
    (admits : entry.Admits left) (same : left.Perm right) : entry.Admits right where
  distinct := admits.distinct.perm same
  declared field mem := admits.declared field (same.mem_iff.mpr mem)
  complete param mem always := by
    rcases admits.complete param mem always with ⟨value, held⟩
    exact ⟨value, same.mem_iff.mp held⟩

theorem Json.AreParams.reorder {kind : String} {left right : Json}
    (same : left.SameUpToOrder right) (params : left.AreParams kind) : right.AreParams kind := by
  rcases same with rfl | ⟨leftFields, rightFields, rfl, rfl, perm⟩
  · exact params
  · rw [AreParams] at params ⊢
    cases known : Catalog.actionType? kind with
    | none => exact Or.inr (Or.inr rfl)
    | some entry =>
        rw [known] at params
        rcases params with ⟨fields, same, admits⟩
        cases same
        exact ⟨rightFields, rfl, admits.perm perm⟩

/-- Being canonical does not depend on the order of parameters and conditions. -/
theorem Rule.IsCanonical.reorder {left right : Rule} (same : left.SameUpToOrder right)
    (canonical : left.IsCanonical) : right.IsCanonical where
  name := same.name ▸ canonical.name
  active := same.active ▸ canonical.active
  triggerType := same.triggerType ▸ canonical.triggerType
  conditions := canonical.conditions.reorder same.conditions
  filled := by
    intro empty
    have actions := same.actions
    rw [empty, List.forall₂_nil_right_iff] at actions
    exact canonical.filled actions
  actions := by
    intro action mem
    rcases List.mem_iff_getElem.mp mem with ⟨position, inside, rfl⟩
    have pairs := same.actions
    have sameLength := pairs.length_eq
    have pair : (left.actions[position]).SameUpToOrder right.actions[position] :=
      (List.forall₂_iff_get.mp pairs).2 position (by omega) inside
    rcases canonical.actions _ (List.getElem_mem _) with ⟨kind, typed, tidy, params⟩
    exact ⟨kind, by rw [← pair.type, typed], tidy, params.reorder pair.params⟩

end Rulebook
