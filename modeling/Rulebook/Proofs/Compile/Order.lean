import Mathlib
import Rulebook.Proofs.Compile.Steps
import Rulebook.Proofs.Edit.Moves

/-!
# The order of actions

The actions of a rule are executed in the order in which they were drafted. Compiling goes through
the drafted actions one after the other: of two lists in a row, the compiled actions of the first
stand in front of those of the second, and the first failure decides. So the order has a say in
which failure is found and none in whether there is one, and a move of the editor does to the
compiled actions what it does to the drafted ones.
-/

namespace Rulebook

theorem compileActions_append (first second : List ActionDraft) :
    compileActions (first ++ second) =
      Scan.inTurn (compileActions first) (compileActions second) := by
  simp only [compileActions_eq_filterMapM]
  exact Scan.filterMapM_append first second

/-- Actions without a kind may be left out. -/
theorem compileActions_filter (actions : List ActionDraft) :
    compileActions (actions.filter fun action => !action.kind.isEmpty) =
      compileActions actions := by
  simp only [compileActions_eq_filterMapM]
  apply Scan.filterMapM_filter
  intro action _ blank
  apply ActionDraft.compile_of_blank
  simpa using blank

theorem exists_compileActions_iff_of_perm {actions reordered : List ActionDraft}
    (perm : reordered.Perm actions) :
    (∃ compiled, compileActions reordered = .ok compiled) ↔
      ∃ compiled, compileActions actions = .ok compiled := by
  simp only [compileActions_eq_filterMapM]
  exact Scan.exists_ok_iff_of_perm perm

section Compiled

variable {actions reordered : List ActionDraft} {compiled moved : List Action}

theorem perm_of_compileActions (perm : reordered.Perm actions)
    (succeeds : compileActions actions = .ok compiled)
    (succeedsAgain : compileActions reordered = .ok moved) : moved.Perm compiled := by
  rw [compileActions_eq_filterMapM] at succeeds succeedsAgain
  exact Scan.perm_of_perm perm succeeds succeedsAgain

/-- Where every action has a kind, every compiled action stands at the place of its draft. -/
theorem map_compile_eq (filled : ∀ action ∈ actions, action.kind ≠ [])
    (succeeds : compileActions actions = .ok compiled) :
    actions.map ActionDraft.compile = compiled.map fun action => .ok (some action) := by
  rw [compileActions_eq_filterMapM] at succeeds
  apply Scan.map_step_eq _ succeeds
  intro action mem blank
  exact filled action mem (ActionDraft.compile_eq_ok_none_iff.mp blank)

theorem isExchange_of_compileActions {i j : Nat} (exchanged : IsExchange actions reordered i j)
    (perm : reordered.Perm actions) (filled : ∀ action ∈ actions, action.kind ≠ [])
    (succeeds : compileActions actions = .ok compiled)
    (succeedsAgain : compileActions reordered = .ok moved) : IsExchange compiled moved i j := by
  have filledAgain : ∀ action ∈ reordered, action.kind ≠ [] := by
    intro action mem
    exact filled action (perm.mem_iff.mp mem)
  have results := exchanged.map ActionDraft.compile
  rw [map_compile_eq filled succeeds, map_compile_eq filledAgain succeedsAgain] at results
  apply results.of_map
  intro first second same
  simpa using same

end Compiled

/-- What a move does to the compiled actions of a draft. -/
structure Draft.ReordersCompiled (draft : Draft) (id : Json) (offset : Int) : Prop where
  compiles_iff : (∃ moved, compileActions (draft.moveAction id offset).actions = .ok moved) ↔
    ∃ compiled, compileActions draft.actions = .ok compiled
  perm : ∀ compiled moved, compileActions draft.actions = .ok compiled →
    compileActions (draft.moveAction id offset).actions = .ok moved → moved.Perm compiled
  exchanged : ∀ i j, draft.Leads id offset i j →
    IsExchange draft.actions (draft.moveAction id offset).actions i j ∧
      ((∀ action ∈ draft.actions, action.kind ≠ []) →
        ∀ compiled moved, compileActions draft.actions = .ok compiled →
          compileActions (draft.moveAction id offset).actions = .ok moved →
          IsExchange compiled moved i j)
  unmoved : (∀ i j, ¬draft.Leads id offset i j) → draft.moveAction id offset = draft

theorem Draft.reordersCompiled (draft : Draft) (id : Json) (offset : Int) :
    draft.ReordersCompiled id offset := by
  rcases exists_moveAction_eq draft id offset with ⟨actions, perm, moves⟩
  have sameActions : (draft.moveAction id offset).actions = actions := by
    rw [moves]
  constructor
  · rw [sameActions]
    exact exists_compileActions_iff_of_perm perm
  · intro compiled moved succeeds succeedsAgain
    rw [sameActions] at succeedsAgain
    exact perm_of_compileActions perm succeeds succeedsAgain
  · intro i j leads
    refine ⟨leads.isExchange, ?_⟩
    intro filled compiled moved succeeds succeedsAgain
    apply isExchange_of_compileActions leads.isExchange _ filled succeeds succeedsAgain
    rwa [sameActions]
  · exact moveAction_of_not_leads

/-- Compiled actions stand in the order in which they were drafted, and the first failure decides;
actions without a kind do not count. A move changes neither whether the actions compile nor which
compiled actions there are, and where every action has a kind it exchanges the same two places of
the compiled actions. -/
theorem compileActions_inTurn (first second : List ActionDraft) (draft : Draft) (id : Json)
    (offset : Int) :
    compileActions (first ++ second) =
        Scan.inTurn (compileActions first) (compileActions second) ∧
      compileActions (first.filter fun action => !action.kind.isEmpty) = compileActions first ∧
      draft.ReordersCompiled id offset :=
  ⟨compileActions_append first second, compileActions_filter first,
    draft.reordersCompiled id offset⟩

end Rulebook
