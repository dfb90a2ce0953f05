import Mathlib
import Rulebook.Query

/-!
# Filters one after the other

A query filters by status, by trigger and by a searched text at once. Each of the three keeps or
drops a rule by itself, so filtering is the library's `List.filter` with the conjunction of three
tests, and a query can be taken apart into three queries of one test each, which give the same list
in every order. The status is the only part of a query that can be refused, and the two statuses
other than `"all"` divide a list in the way in which it is counted.
-/

namespace Rulebook

/-- What the three filters are asked for. -/
structure Query where
  status : Json
  /-- The trigger, or `"all"`. -/
  triggerType : Json
  /-- The searched text. -/
  search : Json

namespace Query

/-- The statuses that a filter can have. -/
def statuses : List Json :=
  [.str "all", .str "active", .str "inactive"]

/-- The rules that a query keeps. -/
def run (query : Query) (rules : List Rule) : Except Failure (List Rule) :=
  filterRules rules query.status query.triggerType query.search

/-- The query that asks for a status only. -/
def ofStatus (status : Json) : Query :=
  ⟨status, .str "all", .str ""⟩

/-- The three filters of a query, each of them alone. -/
def parts (query : Query) : List Query :=
  [ofStatus query.status, ⟨.str "all", query.triggerType, .str ""⟩,
    ⟨.str "all", .str "all", query.search⟩]

/-- Filters by one query after the other. -/
def runInTurn (queries : List Query) (rules : List Rule) : Except Failure (List Rule) :=
  queries.foldlM (fun kept query => query.run kept) rules

/-- The query keeps a rule; a query with an unknown status keeps none. -/
def keeps (query : Query) (rule : Rule) : Bool :=
  (StatusFilter.ofName? query.status).any fun filter =>
    keepsRule filter query.triggerType query.search rule

variable {query : Query} {queries order : List Query} {rules kept : List Rule}

/-! ## One query -/

theorem isSome_ofName?_iff {status : Json} :
    (StatusFilter.ofName? status).isSome = true ↔ status ∈ statuses := by
  constructor
  · intro known
    fun_cases StatusFilter.ofName? status <;> simp_all [StatusFilter.ofName?, statuses]
  · simp only [statuses, List.mem_cons, List.not_mem_nil, or_false]
    rintro (rfl | rfl | rfl) <;> simp [StatusFilter.ofName?]

theorem run_of_known (known : query.status ∈ statuses) (rules : List Rule) :
    query.run rules = .ok (rules.filter query.keeps) := by
  rcases Option.isSome_iff_exists.mp (isSome_ofName?_iff.mpr known) with ⟨filter, named⟩
  have same : query.keeps = keepsRule filter query.triggerType query.search := by
    funext rule
    simp [keeps, named]
  simp only [run, filterRules, named, same]

theorem run_of_unknown (unknown : query.status ∉ statuses) (rules : List Rule) :
    query.run rules = .error (.unknownStatus query.status) := by
  have unnamed : StatusFilter.ofName? query.status = none := by
    simpa [← isSome_ofName?_iff] using unknown
  simp only [run, filterRules, unnamed]

theorem keepsTrigger_all (rule : Rule) : keepsTrigger (.str "all") rule = true := by
  simp [keepsTrigger]

theorem keepsSearch_blank (rule : Rule) : keepsSearch (.str "") rule = true := by
  rfl

theorem keeps_ofStatus (status : Json) (rule : Rule) :
    (ofStatus status).keeps rule =
      (StatusFilter.ofName? status).any fun filter => filter.keeps rule := by
  simp [keeps, ofStatus, keepsRule, keepsTrigger_all, keepsSearch_blank]

theorem keeps_all (triggerType search : Json) (rule : Rule) :
    (⟨.str "all", triggerType, search⟩ : Query).keeps rule =
      (keepsTrigger triggerType rule && keepsSearch search rule) := by
  simp [keeps, StatusFilter.ofName?, keepsRule, StatusFilter.keeps]

/-- A rule is kept by a query if each of its filters keeps it. -/
theorem all_parts_keep (query : Query) (rule : Rule) :
    (query.parts.all fun part => part.keeps rule) = query.keeps rule := by
  simp only [parts, List.all_cons, List.all_nil, keeps_ofStatus, keeps_all, keepsTrigger_all,
    keepsSearch_blank]
  cases named : StatusFilter.ofName? query.status with
  | none => simp [keeps, named]
  | some filter => simp [keeps, named, keepsRule, Bool.and_assoc]

theorem known_of_mem_parts (known : query.status ∈ statuses) :
    ∀ part ∈ query.parts, part.status ∈ statuses := by
  have all : Json.str "all" ∈ statuses := List.mem_cons_self
  simp [parts, ofStatus, known, all]

theorem run_ofStatus {status : Json} {filter : StatusFilter}
    (named : StatusFilter.ofName? status = some filter) (rules : List Rule) :
    (ofStatus status).run rules = .ok (rules.filter filter.keeps) := by
  have known : (ofStatus status).status ∈ statuses :=
    isSome_ofName?_iff.mp (Option.isSome_iff_exists.mpr ⟨filter, named⟩)
  have same : (ofStatus status).keeps = filter.keeps := by
    funext rule
    simp [keeps_ofStatus, named]
  rw [run_of_known known, same]

/-! ## Queries in turn -/

theorem runInTurn_cons (query : Query) (queries : List Query) (rules : List Rule) :
    runInTurn (query :: queries) rules = (query.run rules).bind (runInTurn queries) :=
  List.foldlM_cons

theorem runInTurn_of_known (known : ∀ query ∈ queries, query.status ∈ statuses)
    (rules : List Rule) :
    runInTurn queries rules =
      .ok (rules.filter fun rule => queries.all fun query => query.keeps rule) := by
  induction queries generalizing rules with
  | nil => simp [runInTurn]; rfl
  | cons query queries ih =>
      rw [List.forall_mem_cons] at known
      rw [runInTurn_cons, run_of_known known.1, Except.bind, ih known.2, List.filter_filter]
      simp [Bool.and_comm]

/-- The parts of a query give in every order what the query gives. -/
theorem runInTurn_of_perm (known : query.status ∈ statuses) (reordered : order.Perm query.parts)
    (rules : List Rule) : runInTurn order rules = .ok (rules.filter query.keeps) := by
  have each : ∀ part ∈ order, part.status ∈ statuses :=
    fun part mem => known_of_mem_parts known part (reordered.subset mem)
  rw [runInTurn_of_known each]
  congr 2
  funext rule
  rw [← all_parts_keep, reordered.all_eq]

/-! ## The two halves of a list -/

/-- The rules that are switched on and those that are not are a list divided in two. -/
theorem perm_halves (rules : List Rule) :
    (rules.filter Rule.isActive ++ rules.filter (!·.isActive)).Perm rules :=
  List.filter_append_perm Rule.isActive rules

theorem length_halves (rules : List Rule) :
    (rules.filter Rule.isActive).length = (summarize rules).active ∧
      (rules.filter (!·.isActive)).length = (summarize rules).inactive := by
  have whole := (perm_halves rules).length_eq
  rw [List.length_append] at whole
  rw [summarize, List.countP_eq_length_filter]
  constructor
  · rfl
  · change _ = rules.length - _
    omega

/-- Every rule is kept by exactly one of the statuses `"active"` and `"inactive"`, and as many rules
are kept by either as are counted. -/
structure DividesAsCounted (rules active inactive : List Rule) : Prop where
  keptActive : (ofStatus (.str "active")).run rules = .ok active
  keptInactive : (ofStatus (.str "inactive")).run rules = .ok inactive
  divided : (active ++ inactive).Perm rules
  exclusive : ∀ rule ∈ rules, Xor (rule ∈ active) (rule ∈ inactive)
  countedActive : active.length = (summarize rules).active
  countedInactive : inactive.length = (summarize rules).inactive
  total : (summarize rules).active + (summarize rules).inactive = (summarize rules).total

theorem dividesAsCounted (rules : List Rule) :
    DividesAsCounted rules (rules.filter Rule.isActive) (rules.filter (!·.isActive)) where
  keptActive := @run_ofStatus _ .active rfl rules
  keptInactive := @run_ofStatus _ .inactive rfl rules
  divided := perm_halves rules
  exclusive := by
    intro rule mem
    cases active : rule.isActive <;> simp [Xor, mem, active]
  countedActive := (length_halves rules).1
  countedInactive := (length_halves rules).2
  total := by
    have whole := (perm_halves rules).length_eq
    rw [List.length_append, (length_halves rules).1, (length_halves rules).2] at whole
    exact whole

/-- Filtering keeps the order; its three filters give the same list one after the other in any
order; filtering once more changes nothing; the statuses divide a list as it is counted; and an
unknown status is refused for every list. -/
theorem run_is_stable_conjunction (query : Query) (rules : List Rule) :
    (query.status ∈ statuses → ∃ kept, query.run rules = .ok kept ∧ kept.Sublist rules ∧
      (∀ order, order.Perm query.parts → runInTurn order rules = .ok kept) ∧
      query.run kept = .ok kept) ∧
    (∃ active inactive, DividesAsCounted rules active inactive) ∧
    (query.status ∉ statuses → query.run rules = .error (.unknownStatus query.status)) := by
  refine ⟨?_, ⟨_, _, dividesAsCounted rules⟩, fun unknown => run_of_unknown unknown rules⟩
  intro known
  refine ⟨rules.filter query.keeps, run_of_known known rules, List.filter_sublist, ?_, ?_⟩
  · intro order reordered
    exact runInTurn_of_perm known reordered rules
  · rw [run_of_known known, List.filter_filter]
    simp

/-- Only `false` counts as switched off, and a zero does not. -/
theorem campaigns_filtered :
    let rule (name event : String) (active : Json) : Rule :=
      ⟨.null, .str name, active, ⟨.str event, .null, .null⟩, []⟩
    let rules := [rule "Spring" "lead_created" (.bool true),
      rule "spring II" "lead_created" (.bool false), rule "Spring mail" "form_submitted" (.bool true),
      rule "SPRING III" "lead_created" (.int 0), rule "Autumn" "lead_created" .null]
    let query : Query := ⟨.str "active", .str "lead_created", .str " spring"⟩
    query.status ∈ statuses ∧ summarize rules = ⟨5, 4, 1⟩ ∧
      query.run rules = .ok [rule "Spring" "lead_created" (.bool true),
        rule "SPRING III" "lead_created" (.int 0)] ∧
      ∃ kept, query.run rules = .ok kept ∧ kept.Sublist rules ∧
        (∀ order, order.Perm query.parts → runInTurn order rules = .ok kept) ∧
        query.run kept = .ok kept := by
  intro rule rules query
  have known : query.status ∈ statuses := by decide
  exact ⟨known, by decide, by decide +kernel, (run_is_stable_conjunction query rules).1 known⟩

end Query

end Rulebook
