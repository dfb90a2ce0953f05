import Mathlib
import Rulebook.Proofs.Edit.Run

/-!
# What a run of the editor keeps

The editor finds actions by their local ids, so that no two actions of a draft may share one. An
operation either keeps actions together with their ids or gives actions an id that a generator has
never given before. This is said once, of one operation (`Draft.Draws`), and everything that holds
along a run is read off it: the ids of a draft are distinct, and every action has the fields that
its form shows. The identity of the rule and its switch stay what they were, also where the draft is
compiled and the rule opened again.
-/

namespace Rulebook

/-! ## Generators of local ids -/

namespace Text

theorem numberInBase_digitsOnto (number : Nat) :
    numberInBase 16 ((digitsOnto 16 (by decide) number []).filterMap hexValue?) = number := by
  induction number using Nat.strongRecOn with
  | ind number ih =>
      rw [digitsOnto]
      split
      · next small => simp [Json.hexValue?_hexDigit number small, numberInBase]
      · next large =>
        have last := Json.hexValue?_hexDigit (number % 16) (Nat.mod_lt number (by decide))
        have leading := ih (number / 16) (Nat.div_lt_self (by omega) (by decide))
        rw [digitsOnto_eq_append, List.filterMap_append, numberInBase, List.foldl_append,
          ← numberInBase, leading]
        simp only [List.filterMap_cons, last, List.filterMap_nil, List.foldl_cons, List.foldl_nil]
        omega

/-- The zeros in front do not count. -/
theorem numberInBase_hexadecimal (width number : Nat) :
    numberInBase 16 ((hexadecimal width number).filterMap hexValue?) = number := by
  have zeros : ∀ count, numberInBase 16 ((List.replicate count '0').filterMap hexValue?) = 0 := by
    intro count
    induction count with
    | zero => rfl
    | succ count ih => exact ih
  rw [hexadecimal, padLeft, List.filterMap_append, numberInBase, List.foldl_append,
    ← numberInBase, zeros, ← numberInBase, numberInBase_digitsOnto]

theorem hexadecimal_injective (width : Nat) : Function.Injective (hexadecimal width) := by
  intro first second same
  rw [← numberInBase_hexadecimal width first, same, numberInBase_hexadecimal]

end Text

/-- The text of the local id with a number. -/
def localIdText (number : Nat) : String :=
  String.ofList ("act_".toList ++ Text.hexadecimal 16 number)

theorem localId_eq (number : Nat) : localId number = .str (localIdText number) :=
  rfl

theorem localIdText_injective : Function.Injective localIdText := by
  intro first second same
  have texts := String.ofList_injective same
  exact Text.hexadecimal_injective 16 (List.append_cancel_left texts)

/-- Gives each action of a list the next id of a generator. -/
def drawIds (ids : Nat → String) (next : Nat) : List ActionDraft → List ActionDraft
  | [] => []
  | action :: rest => { action with localId := .str (ids next) } :: drawIds ids (next + 1) rest

section Generator

variable {ids : Nat → String}

theorem exists_of_mem_drawIds {actions : List ActionDraft} {next : Nat} {action : ActionDraft}
    (mem : action ∈ drawIds ids next actions) :
    ∃ before ∈ actions, ∃ number, next ≤ number ∧ number < next + actions.length ∧
      action = { before with localId := .str (ids number) } := by
  induction actions generalizing next with
  | nil => cases mem
  | cons first rest ih =>
      rcases List.mem_cons.mp mem with rfl | later
      · exact ⟨first, List.mem_cons_self, next, le_rfl, by simp, rfl⟩
      · rcases ih later with ⟨before, beforeMem, number, low, high, rfl⟩
        refine ⟨before, List.mem_cons_of_mem _ beforeMem, number, by omega, ?_, rfl⟩
        rw [List.length_cons]
        omega

theorem nodup_drawIds (injective : Function.Injective ids) (next : Nat)
    (actions : List ActionDraft) :
    ((drawIds ids next actions).map ActionDraft.localId).Nodup := by
  induction actions generalizing next with
  | nil => exact List.nodup_nil
  | cons first rest ih =>
      rw [drawIds, List.map_cons, List.nodup_cons]
      refine ⟨?_, ih (next + 1)⟩
      intro again
      rcases List.mem_map.mp again with ⟨action, mem, same⟩
      rcases exists_of_mem_drawIds mem with ⟨_, _, number, low, _, rfl⟩
      have := injective (Json.str.inj same)
      omega

end Generator

/-- Expanding a rule draws the ids of its actions one after the other. -/
theorem drawIds_expandActions (next : Nat) (actions : List Action) :
    drawIds localIdText next (expandActions next actions) = expandActions next actions := by
  induction actions generalizing next with
  | nil => rfl
  | cons first rest ih => rw [expandActions, drawIds, ih, ← localId_eq]; rfl

theorem length_expandActions (next : Nat) (actions : List Action) :
    (expandActions next actions).length = actions.length := by
  induction actions generalizing next with
  | nil => rfl
  | cons first rest ih => rw [expandActions, List.length_cons, ih, List.length_cons]

/-! ## Complete actions -/

/-- The action has all fields of a new action of its kind. -/
def ActionDraft.IsComplete (action : ActionDraft) : Prop :=
  ∀ field ∈ Catalog.defaultFields action.type, action.fields.has field.1 = true

namespace ActionDraft

theorem isComplete_default (kind id : Json) : IsComplete ⟨kind, Catalog.defaultFields kind, id⟩ :=
  fun _ mem => Json.Fields.has_of_mem mem

theorem isComplete_ofAction (id : Json) (action : Action) : (ofAction id action).IsComplete := by
  rw [ofAction, textOr]
  generalize (if action.type.isTruthy then String.ofList action.type.display
    else Catalog.defaultActionKind) = kind
  intro field mem
  cases known : Catalog.actionType? kind with
  | none =>
      simp only [Catalog.defaultFields, Catalog.actionTypeOf?, known, List.mem_singleton] at mem
      simp only [Action.draftFields, Catalog.actionTypeOf?, known, mem]
      exact Json.Fields.has_of_mem (List.mem_singleton.mpr rfl)
  | some entry =>
      simp only [Catalog.defaultFields, Catalog.actionTypeOf?, known] at mem
      rcases List.mem_map.mp mem with ⟨param, listed, rfl⟩
      rw [draftFields_eq known]
      have drawn := List.mem_map_of_mem (f := fun param : Param =>
        (param.field, param.fieldText (action.params.field param.name))) listed
      exact Json.Fields.has_of_mem drawn

theorem IsComplete.set {action : ActionDraft} (complete : action.IsComplete) (field : String)
    (value : Json) : IsComplete { action with fields := action.fields.set field value } :=
  fun other mem => Json.Fields.has_set_of_has (complete other mem)

end ActionDraft

theorem isComplete_of_mem_expandActions {actions : List Action} {next : Nat} :
    ∀ action ∈ expandActions next actions, action.IsComplete := by
  induction actions generalizing next with
  | nil => simp [expandActions]
  | cons first rest ih =>
      exact List.forall_mem_cons.mpr ⟨ActionDraft.isComplete_ofAction _ first, ih⟩

/-! ## Operations and runs -/

/-- The operation types no identity and no switch, and puts no foreign actions in place. -/
def Edit.KeepsIdentity : Edit → Prop
  | .setId _ | .setActive _ | .setActions _ => False
  | _ => True

/-- An operation of the editor, or a template that need not be on offer. -/
inductive Operation
  | edit (edit : Edit)
  | template (template : Template)

namespace Operation

/-- The draft after an operation, and the next free id. -/
def apply (draft : Draft) (next : Nat) : Operation → Except Failure (Draft × Nat)
  | .edit operation => draft.apply next operation
  | .template source => .ok (draft.applyTemplate next source)

/-- The operation is a template, which brings no identity, or an edit that keeps it. -/
def KeepsIdentity : Operation → Prop
  | .edit operation => operation.KeepsIdentity
  | .template _ => True

end Operation

namespace Draft

/-- Exchanges the ids drawn since `next`, those of the last actions, for ids of a generator. No
operation looks at the ids that it draws itself, so that they may be exchanged afterwards. -/
def relabel (ids : Nat → String) (next : Nat) (after : Draft × Nat) : Draft × Nat :=
  let kept := after.1.actions.length - (after.2 - next)
  ({ after.1 with
      actions := after.1.actions.take kept ++ drawIds ids next (after.1.actions.drop kept) },
    after.2)

/-- Opens a rule, or starts a new one, with the ids of a generator. -/
def openWith (ids : Nat → String) (next : Nat) : Option Rule → Draft × Nat
  | none => relabel ids next (empty next)
  | some rule => relabel ids next (ofRule next rule)

/-- Performs one operation with the ids of a generator. One that fails changes nothing. -/
def performWith (ids : Nat → String) (state : Draft × Nat) (operation : Operation) : Draft × Nat :=
  match operation.apply state.1 state.2 with
  | .ok after => relabel ids state.2 after
  | .error _ => state

/-- Performs operations one after the other. -/
def runWith (ids : Nat → String) (state : Draft × Nat) (operations : List Operation) :
    Draft × Nat :=
  operations.foldl (performWith ids) state

/-! ## One operation -/

/-- What becomes of the actions of a draft: some are kept, in any order and with their ids, and
behind them stand new ones, which drew the ids from `next` on. -/
structure Draws (before : List ActionDraft) (next : Nat) (after : Draft × Nat)
    (kept drawn : List ActionDraft) : Prop where
  actions : after.1.actions = kept ++ drawn
  counter : after.2 = next + drawn.length
  kept_ids : (kept.map ActionDraft.localId).Subperm (before.map ActionDraft.localId)
  drawn_ids : drawIds localIdText next drawn = drawn
  kept_complete : (∀ action ∈ before, action.IsComplete) → ∀ action ∈ kept, action.IsComplete
  drawn_complete : ∀ action ∈ drawn, action.IsComplete

namespace Draws

variable {before kept drawn : List ActionDraft} {next : Nat} {after : Draft × Nat}

theorem of_kept {draft : Draft}
    (ids : (draft.actions.map ActionDraft.localId).Subperm (before.map ActionDraft.localId))
    (complete : (∀ action ∈ before, action.IsComplete) →
      ∀ action ∈ draft.actions, action.IsComplete) :
    Draws before next (draft, next) draft.actions [] where
  actions := (List.append_nil _).symm
  counter := rfl
  kept_ids := ids
  drawn_ids := rfl
  kept_complete := complete
  drawn_complete := by simp

theorem of_drawn (counter : after.2 = next + after.1.actions.length)
    (ids : drawIds localIdText next after.1.actions = after.1.actions)
    (complete : ∀ action ∈ after.1.actions, action.IsComplete) :
    Draws before next after [] after.1.actions where
  actions := rfl
  counter := counter
  kept_ids := List.nil_subperm
  drawn_ids := ids
  kept_complete := by simp
  drawn_complete := complete

theorem empty (next : Nat) : Draws before next (Draft.empty next) [] (Draft.empty next).1.actions :=
  of_drawn rfl rfl fun _ mem => List.mem_singleton.mp mem ▸ ActionDraft.isComplete_default _ _

theorem ofRule (next : Nat) (rule : Rule) :
    Draws before next (ofRule next rule) [] (expandActions next rule.actions) := by
  refine of_drawn ?_ (drawIds_expandActions next rule.actions) isComplete_of_mem_expandActions
  rw [Draft.ofRule, length_expandActions]

theorem relabel_eq (draws : Draws before next after kept drawn) (ids : Nat → String) :
    relabel ids next after =
      ({ after.1 with actions := kept ++ drawIds ids next drawn }, after.2) := by
  have length : after.1.actions.length - (after.2 - next) = kept.length := by
    rw [draws.actions, draws.counter, List.length_append]
    omega
  rw [relabel, length, draws.actions, List.take_left, List.drop_left]

end Draws

variable {draft : Draft} {next : Nat}

theorem Draws.addAction (kind : Json) :
    Draws draft.actions next (draft.addAction next kind) draft.actions
      [⟨kind, Catalog.defaultFields kind, localId next⟩] where
  actions := rfl
  counter := rfl
  kept_ids := .refl _
  drawn_ids := rfl
  kept_complete := fun complete => complete
  drawn_complete := fun _ mem => List.mem_singleton.mp mem ▸ ActionDraft.isComplete_default _ _

theorem Draws.removeAction (id : Json) :
    Draws draft.actions next (draft.removeAction id, next) (draft.removeAction id).actions [] :=
  of_kept (List.filter_sublist.map _).subperm fun complete action mem =>
    complete action (List.mem_of_mem_filter mem)

theorem Draws.mapAction (id : Json) {change : ActionDraft → ActionDraft}
    (sameId : ∀ action, (change action).localId = action.localId)
    (complete : ∀ action, action.IsComplete → (change action).IsComplete) :
    Draws draft.actions next (draft.mapAction id change, next)
      (draft.mapAction id change).actions [] := by
  have ids : (draft.mapAction id change).actions.map ActionDraft.localId =
      draft.actions.map ActionDraft.localId := by
    rw [Draft.mapAction, List.map_map]
    apply List.map_congr_left
    intro action _
    rw [Function.comp_apply]
    split
    · exact sameId action
    · rfl
  refine of_kept (ids ▸ .refl _) ?_
  intro before action mem
  rcases List.mem_map.mp mem with ⟨old, oldMem, rfl⟩
  split
  · exact complete old (before old oldMem)
  · exact before old oldMem

/-- A template replaces all actions, or none if it has none itself. -/
theorem exists_draws_applyTemplate (template : Template) :
    ∃ kept drawn, Draws draft.actions next (draft.applyTemplate next template) kept drawn := by
  cases actions : template.actions with
  | nil =>
      refine ⟨draft.actions, [], ?_⟩
      simp only [applyTemplate, actions]
      exact Draws.of_kept (.refl _) fun complete => complete
  | cons first rest =>
      have drawn : (draft.applyTemplate next template).1.actions =
          expandActions next template.actions := by
        simp [applyTemplate, actions, expandActions]
      refine ⟨[], (draft.applyTemplate next template).1.actions, Draws.of_drawn ?_ ?_ ?_⟩
      · rw [drawn, length_expandActions, applyTemplate]
      · rw [drawn]
        exact drawIds_expandActions next template.actions
      · rw [drawn]
        exact isComplete_of_mem_expandActions

/-- What one operation does to a draft. -/
structure Advances (draft : Draft) (next : Nat) (after : Draft × Nat) : Prop where
  draws : ∃ kept drawn, Draws draft.actions next after kept drawn
  id : after.1.id = draft.id
  active : ∀ on, draft.active = .bool on → after.1.active = .bool on

theorem Advances.unchanged : Advances draft next (draft, next) :=
  ⟨⟨_, _, Draws.of_kept (.refl _) fun complete => complete⟩, rfl, fun _ same => same⟩

theorem advances_reopen {rule : Rule} (compiled : draft.compile = .ok rule) :
    Advances draft next (ofRule next rule) := by
  rcases compile_eq_ok_iff.mp compiled with ⟨_, _, params, conditions, actions, _, _, _, _, rfl⟩
  refine ⟨⟨_, _, Draws.ofRule next _⟩, rfl, ?_⟩
  intro on switched
  have truthy : draft.active.isTruthy = on := by
    rw [switched]
    rfl
  rw [ofRule, assemble, Rule.isActive, truthy]
  cases on <;> rfl

theorem advances_of_apply {edit : Edit} (keeps : edit.KeepsIdentity) {after : Draft × Nat}
    (applied : draft.apply next edit = .ok after) : Advances draft next after := by
  cases edit with
  | add kind =>
      rcases Scan.map_eq_ok_iff.mp applied with ⟨_, _, rfl⟩
      exact ⟨⟨_, _, Draws.addAction kind⟩, rfl, fun _ same => same⟩
  | remove id =>
      cases applied
      exact ⟨⟨_, _, Draws.removeAction id⟩, rfl, fun _ same => same⟩
  | move id offset =>
      rcases Scan.map_eq_ok_iff.mp applied with ⟨distance, _, rfl⟩
      cases distance with
      | none => exact .unchanged
      | some places =>
          rcases exists_moveAction_eq draft id places with ⟨actions, perm, moved⟩
          simp only [moved]
          refine ⟨⟨_, _, Draws.of_kept (perm.map _).subperm ?_⟩, rfl, fun _ same => same⟩
          exact fun complete action mem => complete action (perm.mem_iff.mp mem)
  | changeType id kind =>
      rw [apply] at applied
      split at applied
      · rcases Scan.map_eq_ok_iff.mp applied with ⟨_, _, rfl⟩
        refine ⟨⟨_, _, Draws.mapAction id ?_ ?_⟩, rfl, fun _ same => same⟩
        · exact fun _ => rfl
        · exact fun _ _ => ActionDraft.isComplete_default kind _
      · cases applied
        exact .unchanged
  | setField id field value =>
      cases applied
      refine ⟨⟨_, _, Draws.mapAction id ?_ ?_⟩, rfl, fun _ same => same⟩
      · exact fun _ => rfl
      · exact fun _ complete => complete.set field value
  | template key =>
      rw [apply] at applied
      split at applied
      · cases applied
        exact ⟨exists_draws_applyTemplate _, rfl, fun _ same => same⟩
      · cases applied
  | reopen =>
      rcases Scan.map_eq_ok_iff.mp applied with ⟨rule, compiled, rfl⟩
      exact advances_reopen compiled
  | setId value | setActive value | setActions actions => exact keeps.elim
  | setName value | setTriggerType value | setTriggerParams value
  | setConditions conditions | setCondition key value =>
      cases applied
      exact ⟨⟨_, _, Draws.of_kept (.refl _) fun complete => complete⟩, rfl, fun _ same => same⟩

theorem advances_of_operation {operation : Operation} (keeps : operation.KeepsIdentity)
    {after : Draft × Nat} (applied : operation.apply draft next = .ok after) :
    Advances draft next after := by
  cases operation with
  | edit edit => exact advances_of_apply keeps applied
  | template source =>
      cases applied
      exact ⟨exists_draws_applyTemplate source, rfl, fun _ same => same⟩

theorem Draws.relabel_localIdText {before kept drawn : List ActionDraft} {after : Draft × Nat}
    (draws : Draws before next after kept drawn) : relabel localIdText next after = after := by
  rw [draws.relabel_eq, draws.drawn_ids, ← draws.actions]

theorem relabel_of_counter (ids : Nat → String) {after : Draft × Nat} (same : after.2 = next) :
    relabel ids next after = after := by
  rw [relabel, same, Nat.sub_self, Nat.sub_zero, List.take_length, List.drop_length, drawIds,
    List.append_nil, ← same]

/-- The numbered ids are one generator among others. -/
theorem performWith_localIdText (state : Draft × Nat) (edit : Edit) :
    performWith localIdText state (.edit edit) = perform state edit := by
  rw [performWith, perform, Operation.apply]
  cases applied : state.1.apply state.2 edit with
  | error failure => rfl
  | ok after =>
      by_cases keeps : edit.KeepsIdentity
      · rcases (advances_of_apply keeps applied).draws with ⟨kept, drawn, draws⟩
        exact draws.relabel_localIdText
      · have counter : after.2 = state.2 := by
          cases edit with
          | setId value | setActive value | setActions actions =>
              cases applied
              rfl
          | _ => exact absurd trivial keeps
        exact relabel_of_counter localIdText counter

/-! ## A run -/

theorem runWith_localIdText (state : Draft × Nat) (edits : List Edit) :
    runWith localIdText state (edits.map .edit) = edited state edits := by
  induction edits generalizing state with
  | nil => rfl
  | cons edit rest ih =>
      rw [List.map_cons, runWith, List.foldl_cons, performWith_localIdText]
      exact ih (perform state edit)

/-- No two actions of the draft share a local id, all are complete, and the identity and the switch
are those of the draft that was opened. -/
structure KeepsOrder (opened after : Draft) : Prop where
  distinct : (after.actions.map ActionDraft.localId).Nodup
  complete : ∀ action ∈ after.actions, action.IsComplete
  id : after.id = opened.id
  active : after.active = opened.active

/-- All actions have ids that a generator gave before it came to `next`. -/
def HaveDrawn (ids : Nat → String) (actions : List ActionDraft) (next : Nat) : Prop :=
  ∀ action ∈ actions, ∃ number < next, action.localId = .str (ids number)

section Run

variable {ids : Nat → String} {opened : Draft} {on : Bool} {state after : Draft × Nat}

/-- What one operation preserves. Ids that are kept have been given before, and those that are drawn
have not. -/
theorem Advances.keepsOrder (advances : Advances draft next after)
    (injective : Function.Injective ids) (switched : opened.active = .bool on)
    (order : KeepsOrder opened draft) (given : HaveDrawn ids draft.actions next) :
    KeepsOrder opened (relabel ids next after).1 ∧
      HaveDrawn ids (relabel ids next after).1.actions (relabel ids next after).2 := by
  rcases advances.draws with ⟨kept, drawn, draws⟩
  have keptGiven : HaveDrawn ids kept next := by
    intro action mem
    have idMem := draws.kept_ids.subset (List.mem_map_of_mem (f := ActionDraft.localId) mem)
    rcases List.mem_map.mp idMem with ⟨before, beforeMem, same⟩
    exact same ▸ given before beforeMem
  have apart : ((kept ++ drawIds ids next drawn).map ActionDraft.localId).Nodup := by
    rcases draws.kept_ids with ⟨sameIds, perm, sublist⟩
    rw [List.map_append, List.nodup_append]
    -- A kept id was given before the counter came to `next`, a new one since then.
    refine ⟨perm.nodup_iff.mp (order.distinct.sublist sublist), nodup_drawIds injective _ _, ?_⟩
    rintro first firstMem second secondMem rfl
    rcases List.mem_map.mp firstMem with ⟨action, mem, rfl⟩
    rcases List.mem_map.mp secondMem with ⟨other, otherMem, same⟩
    rcases keptGiven action mem with ⟨number, before, held⟩
    rcases exists_of_mem_drawIds otherMem with ⟨_, _, later, since, _, rfl⟩
    have := injective (Json.str.inj (same.trans held))
    omega
  rw [draws.relabel_eq]
  refine ⟨⟨apart, ?_, advances.id.trans order.id, ?_⟩, ?_⟩
  · intro action mem
    rcases List.mem_append.mp mem with before | new
    · exact draws.kept_complete order.complete action before
    · rcases exists_of_mem_drawIds new with ⟨source, sourceMem, _, _, _, rfl⟩
      exact draws.drawn_complete source sourceMem
  · rw [switched]
    exact advances.active on (order.active.trans switched)
  · intro action mem
    rcases List.mem_append.mp mem with before | new
    · rcases keptGiven action before with ⟨number, early, held⟩
      exact ⟨number, by rw [draws.counter]; omega, held⟩
    · rcases exists_of_mem_drawIds new with ⟨_, _, number, _, early, rfl⟩
      exact ⟨number, by rw [draws.counter]; exact early, rfl⟩

theorem KeepsOrder.performWith {operation : Operation} (keeps : operation.KeepsIdentity)
    (injective : Function.Injective ids) (switched : opened.active = .bool on)
    (order : KeepsOrder opened state.1) (given : HaveDrawn ids state.1.actions state.2) :
    KeepsOrder opened (performWith ids state operation).1 ∧
      HaveDrawn ids (performWith ids state operation).1.actions
        (performWith ids state operation).2 := by
  rw [Draft.performWith]
  split
  · next applied =>
    exact (advances_of_operation keeps applied).keepsOrder injective switched order given
  · exact ⟨order, given⟩

theorem KeepsOrder.runWith {operations : List Operation}
    (keeps : ∀ operation ∈ operations, operation.KeepsIdentity)
    (injective : Function.Injective ids) (switched : opened.active = .bool on)
    (order : KeepsOrder opened state.1) (given : HaveDrawn ids state.1.actions state.2) :
    KeepsOrder opened (runWith ids state operations).1 := by
  induction operations generalizing state with
  | nil => exact order
  | cons operation rest ih =>
      rw [List.forall_mem_cons] at keeps
      rcases order.performWith keeps.1 injective switched given with ⟨orderAfter, givenAfter⟩
      exact ih keeps.2 orderAfter givenAfter

end Run

/-- Opening a rule is an operation on a draft without actions. -/
theorem keepsOrder_openWith {ids : Nat → String} (injective : Function.Injective ids) (next : Nat)
    (rule : Option Rule) :
    KeepsOrder (openWith ids next rule).1 (openWith ids next rule).1 ∧
      HaveDrawn ids (openWith ids next rule).1.actions (openWith ids next rule).2 := by
  have opens : ∀ (after : Draft × Nat) (drawn : List ActionDraft) (on : Bool),
      after.1.active = .bool on → Draws [] next after [] drawn →
      KeepsOrder after.1 (relabel ids next after).1 ∧
        HaveDrawn ids (relabel ids next after).1.actions (relabel ids next after).2 := by
    intro after drawn on switched draws
    have advances : Advances { after.1 with actions := [] } next after :=
      ⟨⟨[], drawn, draws⟩, rfl, fun _ same => same⟩
    exact advances.keepsOrder injective switched ⟨List.nodup_nil, by simp, rfl, rfl⟩
      (by simp [HaveDrawn])
  cases rule with
  | none =>
      rcases opens _ _ _ rfl (Draws.empty next) with ⟨order, given⟩
      exact ⟨⟨order.distinct, order.complete, rfl, rfl⟩, given⟩
  | some rule =>
      rcases opens _ _ _ rfl (Draws.ofRule next rule) with ⟨order, given⟩
      exact ⟨⟨order.distinct, order.complete, rfl, rfl⟩, given⟩

/-- However a rule is edited that was opened, or a new one, with a generator that gives no id twice:
the local ids of its actions stay distinct, every action has the fields of its kind, and the rule
keeps its identity and its switch. -/
theorem runWith_keepsOrder {ids : Nat → String} (injective : Function.Injective ids) (next : Nat)
    (rule : Option Rule) {operations : List Operation}
    (keeps : ∀ operation ∈ operations, operation.KeepsIdentity) :
    KeepsOrder (openWith ids next rule).1
      (runWith ids (openWith ids next rule) operations).1 := by
  have switched : ∃ on, (openWith ids next rule).1.active = .bool on := by
    cases rule with
    | none => exact ⟨_, rfl⟩
    | some rule => exact ⟨_, rfl⟩
  rcases switched with ⟨on, switched⟩
  rcases keepsOrder_openWith injective next rule with ⟨order, given⟩
  exact order.runWith keeps injective switched given

/-- A new rule is filled in from a template and by hand, compiled and opened again, and then its
actions are moved, changed and removed. -/
def workshop : List Operation :=
  [.edit .reopen, .edit (.template (.str "lead_welcome")), .edit (.add (.str "create_task")),
    .edit (.setField (localId 4) "title" (.str "Call")), .edit .reopen,
    .edit (.move (localId 7) (.int (-2))), .edit (.changeType (localId 6) (.str "ping")),
    .edit (.remove (localId 5)), .template default]

theorem workshop_keepsOrder :
    (∀ operation ∈ workshop, operation.KeepsIdentity) ∧
      (runWith localIdText (openWith localIdText 1 none) workshop).1.actions.map
          ActionDraft.localId = [localId 7, localId 6] ∧
      KeepsOrder (openWith localIdText 1 none).1
        (runWith localIdText (openWith localIdText 1 none) workshop).1 := by
  have keeps : ∀ operation ∈ workshop, operation.KeepsIdentity := by
    simp only [workshop, List.forall_mem_cons]
    exact ⟨trivial, trivial, trivial, trivial, trivial, trivial, trivial, trivial, trivial,
      List.forall_mem_nil _⟩
  exact ⟨keeps, by decide +kernel, runWith_keepsOrder localIdText_injective 1 none keeps⟩

end Draft

end Rulebook
