import Mathlib
import Rulebook.Edit

/-!
# Moving actions

A move looks for the first action with an id and exchanges it with the one that stands an offset
further on. It leads nowhere if there is no such action, or no place so far on in the list, and then
the draft stays as it is. Where no other action has the id, the move can be undone: the action is
found again at its new place, and the opposite offset leads back.
-/

namespace Rulebook

/-! ## Exchanged places -/

/-- Two lists hold the same items at the same places, but for two places, whose items are
exchanged. -/
structure IsExchange {α : Type} (before after : List α) (i j : Nat) : Prop where
  first : after[i]? = before[j]?
  second : after[j]? = before[i]?
  others : ∀ place, place ≠ i → place ≠ j → after[place]? = before[place]?

namespace IsExchange

variable {α β : Type} {before after other : List α} {i j : Nat}

theorem refl (items : List α) (i : Nat) : IsExchange items items i i :=
  ⟨rfl, rfl, fun _ _ _ => rfl⟩

theorem symm (exchanged : IsExchange before after i j) : IsExchange after before j i where
  first := exchanged.first.symm
  second := exchanged.second.symm
  others := by
    intro place notJ notI
    exact (exchanged.others place notI notJ).symm

/-- The places say which list it is. -/
theorem unique (exchanged : IsExchange before after i j) (again : IsExchange before other i j) :
    after = other := by
  apply List.ext_getElem?
  intro place
  by_cases isI : place = i
  · rw [isI, exchanged.first, again.first]
  · by_cases isJ : place = j
    · rw [isJ, exchanged.second, again.second]
    · rw [exchanged.others place isI isJ, again.others place isI isJ]

theorem map (exchanged : IsExchange before after i j) (change : α → β) :
    IsExchange (before.map change) (after.map change) i j where
  first := by simp [exchanged.first]
  second := by simp [exchanged.second]
  others := by
    intro place notI notJ
    simp [exchanged.others place notI notJ]

theorem of_map {change : α → β} (injective : Function.Injective change)
    (exchanged : IsExchange (before.map change) (after.map change) i j) :
    IsExchange before after i j where
  first := by
    apply Option.map_injective injective
    simpa using exchanged.first
  second := by
    apply Option.map_injective injective
    simpa using exchanged.second
  others := by
    intro place notI notJ
    apply Option.map_injective injective
    simpa using exchanged.others place notI notJ

end IsExchange

namespace Draft

section Exchange

variable {α : Type} {items : List α} {i j : Nat}

theorem exchange_of_lt (inI : i < items.length) (inJ : j < items.length) :
    exchange items i j = (items.set i items[j]).set j items[i] := by
  simp [exchange, inI, inJ]

theorem exchange_of_le (outside : items.length ≤ j) : exchange items i j = items := by
  simp [exchange, outside]

theorem isExchange_exchange (inI : i < items.length) (inJ : j < items.length) :
    IsExchange items (exchange items i j) i j := by
  rw [exchange_of_lt inI inJ]
  constructor
  · by_cases same : i = j
    · subst same
      simp [inI]
    · simp [Ne.symm same, inI, inJ]
  · simp [inI, inJ]
  · intro place notI notJ
    simp [Ne.symm notI, Ne.symm notJ]

theorem exchange_self (items : List α) (i : Nat) : exchange items i i = items := by
  by_cases inside : i < items.length
  · exact (isExchange_exchange inside inside).unique (.refl items i)
  · exact exchange_of_le (Nat.le_of_not_lt inside)

theorem exchange_exchange (inI : i < items.length) (inJ : j < items.length) :
    exchange (exchange items i j) j i = items := by
  have exchanged := isExchange_exchange inI inJ
  have length : (exchange items i j).length = items.length := by
    simp [exchange_of_lt inI inJ]
  have again : IsExchange (exchange items i j) (exchange (exchange items i j) j i) j i := by
    apply isExchange_exchange <;> omega
  exact again.unique exchanged.symm

theorem exchange_perm (items : List α) (i j : Nat) : (exchange items i j).Perm items := by
  rw [exchange]
  split
  · next first second atFirst atSecond =>
    rcases List.getElem?_eq_some_iff.mp atFirst with ⟨inFirst, rfl⟩
    rcases List.getElem?_eq_some_iff.mp atSecond with ⟨inSecond, rfl⟩
    exact List.set_set_perm inFirst inSecond
  · exact .refl items

end Exchange

/-! ## One move -/

/-- An action with an id stands at a place of a list. -/
def HasIdAt (actions : List ActionDraft) (id : Json) (place : Nat) : Prop :=
  ∃ action, actions[place]? = some action ∧ action.hasId id = true

theorem findIdx?_eq_some_iff {actions : List ActionDraft} {id : Json} {i : Nat} :
    (actions.findIdx? fun action => action.hasId id) = some i ↔
      HasIdAt actions id i ∧ ∀ place < i, ¬HasIdAt actions id place := by
  rw [List.findIdx?_eq_some_iff_getElem]
  constructor
  · rintro ⟨inside, has, earlier⟩
    refine ⟨⟨actions[i], by simp [inside], has⟩, ?_⟩
    rintro place before ⟨action, there, hasId⟩
    rcases List.getElem?_eq_some_iff.mp there with ⟨_, rfl⟩
    exact earlier place before hasId
  · rintro ⟨⟨action, there, has⟩, earlier⟩
    rcases List.getElem?_eq_some_iff.mp there with ⟨inside, rfl⟩
    refine ⟨inside, has, ?_⟩
    intro place before hasId
    exact earlier place before ⟨actions[place], by simp, hasId⟩

/-- A move leads from the place of the first action with the id to another place of the list, an
offset further on. -/
structure Leads (draft : Draft) (id : Json) (offset : Int) (i j : Nat) : Prop where
  first : (draft.actions.findIdx? fun action => action.hasId id) = some i
  target : (j : Int) = i + offset
  inside : j < draft.actions.length

variable {draft : Draft} {id : Json} {offset : Int} {i j : Nat}

theorem Leads.hasIdAt (leads : draft.Leads id offset i j) : HasIdAt draft.actions id i :=
  (findIdx?_eq_some_iff.mp leads.first).1

theorem HasIdAt.lt {actions : List ActionDraft} (has : HasIdAt actions id i) :
    i < actions.length := by
  rcases has with ⟨action, there, _⟩
  exact (List.getElem?_eq_some_iff.mp there).1

theorem Leads.moveAction_eq (leads : draft.Leads id offset i j) :
    draft.moveAction id offset = { draft with actions := exchange draft.actions i j } := by
  have forward : ¬(i : Int) + offset < 0 := by
    have := leads.target
    omega
  have target : ((i : Int) + offset).toNat = j := by
    have := leads.target
    omega
  simp [moveAction, leads.first, forward, target]

theorem Leads.isExchange (leads : draft.Leads id offset i j) :
    IsExchange draft.actions (draft.moveAction id offset).actions i j := by
  rw [leads.moveAction_eq]
  exact isExchange_exchange leads.hasIdAt.lt leads.inside

theorem moveAction_of_not_leads (nowhere : ∀ i j, ¬draft.Leads id offset i j) :
    draft.moveAction id offset = draft := by
  rw [moveAction]
  split
  · rfl
  · next i first =>
    by_cases backward : (i : Int) + offset < 0
    · simp [backward]
    · have outside : draft.actions.length ≤ ((i : Int) + offset).toNat := by
        by_contra inside
        apply nowhere i ((i : Int) + offset).toNat
        exact ⟨first, by omega, by omega⟩
      simp [backward, exchange_of_le outside]

/-- A move exchanges two places or changes nothing. -/
theorem leads_or_moveAction_eq (draft : Draft) (id : Json) (offset : Int) :
    (∃ i j, draft.Leads id offset i j) ∨ draft.moveAction id offset = draft := by
  by_cases somewhere : ∃ i j, draft.Leads id offset i j
  · exact Or.inl somewhere
  · right
    apply moveAction_of_not_leads
    intro i j leads
    exact somewhere ⟨i, j, leads⟩

/-- Moving an action changes the order of the actions and nothing else. -/
theorem exists_moveAction_eq (draft : Draft) (id : Json) (offset : Int) :
    ∃ actions : List ActionDraft, actions.Perm draft.actions ∧
      draft.moveAction id offset = { draft with actions := actions } := by
  rcases leads_or_moveAction_eq draft id offset with ⟨i, j, leads⟩ | unmoved
  · exact ⟨_, exchange_perm _ _ _, leads.moveAction_eq⟩
  · exact ⟨draft.actions, .refl _, unmoved⟩

/-! ## There and back -/

/-- No two actions of the draft have the id. -/
def HasOneAtMost (draft : Draft) (id : Json) : Prop :=
  ∀ i j, HasIdAt draft.actions id i → HasIdAt draft.actions id j → i = j

theorem HasOneAtMost.leads (one : draft.HasOneAtMost id) (has : HasIdAt draft.actions id i)
    (target : (j : Int) = i + offset) (inside : j < draft.actions.length) :
    draft.Leads id offset i j where
  first := by
    apply findIdx?_eq_some_iff.mpr
    refine ⟨has, ?_⟩
    intro place before hasBefore
    have := one place i hasBefore has
    omega
  target := target
  inside := inside

/-- The opposite offset leads back. -/
theorem HasOneAtMost.leads_back (one : draft.HasOneAtMost id)
    (leads : draft.Leads id offset i j) :
    (draft.moveAction id offset).Leads id (-offset) j i := by
  have exchanged := leads.isExchange
  have length : (draft.moveAction id offset).actions.length = draft.actions.length := by
    rw [leads.moveAction_eq]
    exact (exchange_perm _ _ _).length_eq
  refine ⟨?_, ?_, ?_⟩
  · apply findIdx?_eq_some_iff.mpr
    constructor
    · rw [HasIdAt, exchanged.second]
      exact leads.hasIdAt
    · intro place before has
      by_cases isI : place = i
      · rw [HasIdAt, isI, exchanged.first] at has
        have := one j i has leads.hasIdAt
        omega
      · rw [HasIdAt, exchanged.others place isI (by omega)] at has
        exact isI (one place i has leads.hasIdAt)
  · have := leads.target
    omega
  · rw [length]
    exact leads.hasIdAt.lt

theorem Leads.moveAction_moveAction (leads : draft.Leads id offset i j)
    (one : draft.HasOneAtMost id) :
    (draft.moveAction id offset).moveAction id (-offset) = draft := by
  rw [(one.leads_back leads).moveAction_eq, leads.moveAction_eq]
  simp only [exchange_exchange leads.hasIdAt.lt leads.inside]

/-- A move exchanges two actions and can be undone, or it leaves the draft as it is. -/
structure MovesUndoably (draft : Draft) (id : Json) (offset : Int) : Prop where
  perm : (draft.moveAction id offset).actions.Perm draft.actions
  rest : draft.moveAction id offset =
    { draft with actions := (draft.moveAction id offset).actions }
  exchanged : ∀ i j : Nat, HasIdAt draft.actions id i → (j : Int) = i + offset →
    j < draft.actions.length →
    IsExchange draft.actions (draft.moveAction id offset).actions i j
  undone : ∀ i j : Nat, HasIdAt draft.actions id i → (j : Int) = i + offset →
    j < draft.actions.length → (draft.moveAction id offset).moveAction id (-offset) = draft
  unknown : (∀ i, ¬HasIdAt draft.actions id i) → draft.moveAction id offset = draft
  still : offset = 0 → draft.moveAction id offset = draft
  outside : ∀ i : Nat, HasIdAt draft.actions id i →
    (i : Int) + offset < 0 ∨ (draft.actions.length : Int) ≤ i + offset →
    draft.moveAction id offset = draft

theorem HasOneAtMost.movesUndoably (one : draft.HasOneAtMost id) (offset : Int) :
    draft.MovesUndoably id offset where
  perm := by
    rcases exists_moveAction_eq draft id offset with ⟨actions, perm, moved⟩
    rw [moved]
    exact perm
  rest := by
    rcases exists_moveAction_eq draft id offset with ⟨actions, _, moved⟩
    simp [moved]
  exchanged := by
    intro i j has target inside
    exact (one.leads has target inside).isExchange
  undone := by
    intro i j has target inside
    exact (one.leads has target inside).moveAction_moveAction one
  unknown := by
    intro absent
    apply moveAction_of_not_leads
    intro i j leads
    exact absent i leads.hasIdAt
  still := by
    rintro rfl
    rcases leads_or_moveAction_eq draft id 0 with ⟨i, j, leads⟩ | unmoved
    · have same : j = i := by
        have := leads.target
        omega
      rw [leads.moveAction_eq, same, exchange_self]
    · exact unmoved
  outside := by
    intro i has outside
    apply moveAction_of_not_leads
    intro place j leads
    have same := one place i leads.hasIdAt has
    have := leads.target
    have := leads.inside
    omega

end Draft

/-! ## Texts as local ids -/

theorem ActionDraft.hasId_str_iff {action : ActionDraft} {id : String} :
    action.hasId (.str id) = true ↔ action.localId = .str id := by
  rw [hasId]
  cases action.localId with
  | str text => simp [Json.agrees]
  | _ => simp [Json.agrees, Json.sameNumber, Json.number?]

namespace Draft

theorem hasOneAtMost_of_nodup {draft : Draft}
    (distinct : (draft.actions.map ActionDraft.localId).Nodup) (id : String) :
    draft.HasOneAtMost (.str id) := by
  rintro i j ⟨first, atFirst, firstHas⟩ ⟨second, atSecond, secondHas⟩
  rw [ActionDraft.hasId_str_iff] at firstHas secondHas
  have inside : i < (draft.actions.map ActionDraft.localId).length := by
    simpa using (List.getElem?_eq_some_iff.mp atFirst).1
  apply (List.getElem?_inj inside distinct).mp
  simp [atFirst, atSecond, firstHas, secondHas]

/-- In a draft whose actions have distinct local ids, a move by an offset exchanges two actions, and
the opposite offset exchanges them again; or it leads nowhere and leaves the draft as it is. -/
theorem movesUndoably_of_nodup {draft : Draft}
    (distinct : (draft.actions.map ActionDraft.localId).Nodup) (id : String) (offset : Int) :
    draft.MovesUndoably (.str id) offset :=
  (hasOneAtMost_of_nodup distinct id).movesUndoably offset

/-- A message, a task and an action that has no kind yet. -/
def followUp : Draft :=
  { fresh with
    name := .str "Follow up"
    actions := [⟨.str "notify_slack", [("text", .str "New lead")], .str "act_1"⟩,
      ⟨.str "create_task", [("title", .str "Call")], .str "act_2"⟩, ⟨.str " ", [], .str "act_3"⟩] }

theorem followUp_movesUndoably :
    (followUp.actions.map ActionDraft.localId).Nodup ∧
      HasIdAt followUp.actions (.str "act_3") 2 ∧ followUp.MovesUndoably (.str "act_3") (-2) ∧
      (followUp.moveAction (.str "act_3") (-2)).actions.map ActionDraft.localId =
        [.str "act_3", .str "act_2", .str "act_1"] := by
  have distinct : (followUp.actions.map ActionDraft.localId).Nodup := by
    simp [followUp]
  exact ⟨distinct, ⟨_, rfl, rfl⟩, movesUndoably_of_nodup distinct "act_3" (-2), rfl⟩

end Draft

end Rulebook
