import Mathlib

/-!
# Scans that stop at the first failure

Compiling actions, parameters and conditions goes through a list, leaves out what gives nothing,
and stops at the first failure. All three are the library's `List.filterMapM` for steps that can
fail. A scan succeeds if every step does, and then holds what the steps gave, in order; it fails
with the failure of the first item whose step fails.
-/

namespace Rulebook.Scan

variable {ε α β : Type}

theorem map_eq_ok_iff {result : Except ε α} {change : α → β} {value : β} :
    result.map change = .ok value ↔ ∃ before, result = .ok before ∧ change before = value := by
  cases result with
  | error failure => simp [Except.map]
  | ok before => simp [Except.map]

theorem map_eq_error_iff {result : Except ε α} {change : α → β} {failure : ε} :
    result.map change = .error failure ↔ result = .error failure := by
  cases result with
  | error other => simp [Except.map]
  | ok before => simp [Except.map]

theorem bind_eq_ok_iff {result : Except ε α} {next : α → Except ε β} {value : β} :
    result.bind next = .ok value ↔ ∃ before, result = .ok before ∧ next before = .ok value := by
  cases result with
  | error failure => simp [Except.bind]
  | ok before => simp [Except.bind]

theorem exists_ok_iff {result : Except ε α} :
    (∃ value, result = .ok value) ↔ ∀ failure, result ≠ .error failure := by
  cases result with
  | error failure => simp
  | ok value => simp

variable {step : α → Except ε (Option β)}

theorem filterMapM_cons_error {item : α} {rest : List α} {failure : ε}
    (failed : step item = .error failure) :
    (item :: rest).filterMapM step = .error failure := by
  rw [List.filterMapM_cons, failed]
  rfl

theorem filterMapM_cons_ok {item : α} {rest : List α} {result : Option β}
    (passed : step item = .ok result) :
    (item :: rest).filterMapM step = (rest.filterMapM step).map (result.toList ++ ·) := by
  rw [List.filterMapM_cons, passed]
  cases result with
  | none => cases rest.filterMapM step <;> rfl
  | some given => cases rest.filterMapM step <;> rfl

theorem filterMapM_of_ok (give : α → Option β) {items : List α}
    (each : ∀ item ∈ items, step item = .ok (give item)) :
    items.filterMapM step = .ok (items.filterMap give) := by
  induction items with
  | nil => rfl
  | cons item rest ih =>
      rw [List.forall_mem_cons] at each
      rw [filterMapM_cons_ok each.1, ih each.2, List.filterMap_cons]
      cases give item <;> rfl

theorem exists_ok_of_mem {items : List α} {results : List β}
    (scanned : items.filterMapM step = .ok results) :
    ∀ item ∈ items, ∃ result, step item = .ok result := by
  induction items generalizing results with
  | nil => simp
  | cons first rest ih =>
      cases stepped : step first with
      | error failure =>
          rw [filterMapM_cons_error stepped] at scanned
          cases scanned
      | ok result =>
          rw [filterMapM_cons_ok stepped] at scanned
          cases scannedRest : rest.filterMapM step with
          | error failure =>
              rw [scannedRest] at scanned
              cases scanned
          | ok later => exact List.forall_mem_cons.mpr ⟨⟨result, stepped⟩, ih scannedRest⟩

/-- A scan succeeds exactly if every step does, and then it holds what the steps give. -/
theorem filterMapM_eq_ok_iff {items : List α} {results : List β} :
    items.filterMapM step = .ok results ↔
      (∀ item ∈ items, ∃ result, step item = .ok result) ∧
        results = items.filterMap fun item => (step item).toOption.join := by
  have given : (∀ item ∈ items, ∃ result, step item = .ok result) →
      items.filterMapM step = .ok (items.filterMap fun item => (step item).toOption.join) := by
    intro each
    apply filterMapM_of_ok
    intro item mem
    rcases each item mem with ⟨result, stepped⟩
    simp [stepped, Except.toOption]
  constructor
  · intro scanned
    have each := exists_ok_of_mem scanned
    rw [given each] at scanned
    exact ⟨each, (Except.ok.inj scanned).symm⟩
  · rintro ⟨each, rfl⟩
    exact given each

theorem mem_results_iff {items : List α} {results : List β}
    (scanned : items.filterMapM step = .ok results) {result : β} :
    result ∈ results ↔ ∃ item ∈ items, step item = .ok (some result) := by
  rw [(filterMapM_eq_ok_iff.mp scanned).2, List.mem_filterMap]
  apply exists_congr
  intro item
  apply and_congr_right
  intro _
  cases stepped : step item with
  | error failure => simp [Except.toOption]
  | ok given => simp [Except.toOption]

/-- A scan keeps the order of the items: what it holds are the results of the items that give one,
one after the other. -/
theorem forall₂_of_ok {keep : α → Bool} {items : List α} {results : List β}
    (skipped : ∀ item, step item = .ok none ↔ keep item = false)
    (scanned : items.filterMapM step = .ok results) :
    List.Forall₂ (fun item result => step item = .ok (some result)) (items.filter keep)
      results := by
  induction items generalizing results with
  | nil =>
      cases scanned
      exact .nil
  | cons first rest ih =>
      rcases exists_ok_of_mem scanned first List.mem_cons_self with ⟨result, stepped⟩
      rw [filterMapM_cons_ok stepped, map_eq_ok_iff] at scanned
      rcases scanned with ⟨later, scannedLater, rfl⟩
      cases result with
      | none =>
          rw [List.filter_cons_of_neg (by simp [(skipped first).mp stepped])]
          exact ih scannedLater
      | some given =>
          have kept : keep first = true := by
            rw [← Bool.not_eq_false, ← skipped first, stepped]
            simp
          rw [List.filter_cons_of_pos kept]
          exact .cons stepped (ih scannedLater)

/-- If results carry the labels of their items, a scan leaves out labels and adds none. -/
theorem labels_sublist {γ : Type} (label : α → γ) (resultLabel : β → γ) {items : List α}
    {results : List β}
    (labelled : ∀ item result, step item = .ok (some result) → resultLabel result = label item)
    (scanned : items.filterMapM step = .ok results) :
    (results.map resultLabel).Sublist (items.map label) := by
  induction items generalizing results with
  | nil =>
      cases scanned
      exact .slnil
  | cons first rest ih =>
      rcases exists_ok_of_mem scanned first List.mem_cons_self with ⟨result, stepped⟩
      rw [filterMapM_cons_ok stepped, map_eq_ok_iff] at scanned
      rcases scanned with ⟨later, scannedLater, rfl⟩
      cases result with
      | none => exact (ih scannedLater).cons (label first)
      | some given =>
          have same := labelled first given stepped
          simpa [same] using ih scannedLater

/-- If results carry the labels of their items, they carry those of the items that give one. -/
theorem labels_eq {γ : Type} (label : α → γ) (resultLabel : β → γ) {keep : α → Bool}
    {items : List α} {results : List β}
    (labelled : ∀ item result, step item = .ok (some result) → resultLabel result = label item)
    (skipped : ∀ item, step item = .ok none ↔ keep item = false)
    (scanned : items.filterMapM step = .ok results) :
    results.map resultLabel = (items.filter keep).map label := by
  have paired : List.Forall₂ (fun item result => label item = resultLabel result)
      (items.filter keep) results :=
    (forall₂_of_ok skipped scanned).imp fun item result stepped =>
      (labelled item result stepped).symm
  have same : List.Forall₂ (· = ·) ((items.filter keep).map label) (results.map resultLabel) :=
    List.forall₂_map_left_iff.mpr (List.forall₂_map_right_iff.mpr paired)
  rw [List.forall₂_eq_eq_eq] at same
  exact same.symm

/-- What two scans give one after the other: the results of both, or the failure of the first that
fails. -/
def inTurn : Except ε (List β) → Except ε (List β) → Except ε (List β)
  | .ok first, .ok second => .ok (first ++ second)
  | .ok _, .error failure => .error failure
  | .error failure, _ => .error failure

theorem filterMapM_append (first second : List α) :
    (first ++ second).filterMapM step =
      inTurn (first.filterMapM step) (second.filterMapM step) := by
  induction first with
  | nil =>
      cases scanned : second.filterMapM step with
      | error failure => simp [scanned, inTurn, pure, Except.pure]
      | ok results => simp [scanned, inTurn, pure, Except.pure]
  | cons item rest ih =>
      rw [List.cons_append]
      cases stepped : step item with
      | error failure => rw [filterMapM_cons_error stepped, filterMapM_cons_error stepped, inTurn]
      | ok result =>
          rw [filterMapM_cons_ok stepped, filterMapM_cons_ok stepped, ih]
          cases rest.filterMapM step with
          | error failure => rfl
          | ok results => cases second.filterMapM step <;> simp [inTurn, Except.map]

/-- Items that give nothing may be left out. -/
theorem filterMapM_filter {keep : α → Bool} {items : List α}
    (skipped : ∀ item ∈ items, keep item = false → step item = .ok none) :
    (items.filter keep).filterMapM step = items.filterMapM step := by
  induction items with
  | nil => rfl
  | cons item rest ih =>
      rw [List.forall_mem_cons] at skipped
      have later := ih skipped.2
      cases kept : keep item with
      | false =>
          rw [List.filter_cons_of_neg (by simp [kept]), filterMapM_cons_ok (skipped.1 kept), later]
          cases rest.filterMapM step <;> simp [Except.map]
      | true =>
          rw [List.filter_cons_of_pos kept]
          cases stepped : step item with
          | error failure => rw [filterMapM_cons_error stepped, filterMapM_cons_error stepped]
          | ok result => rw [filterMapM_cons_ok stepped, filterMapM_cons_ok stepped, later]

theorem exists_ok_iff_of_perm {items reordered : List α} (perm : reordered.Perm items) :
    (∃ results, reordered.filterMapM step = .ok results) ↔
      ∃ results, items.filterMapM step = .ok results := by
  simp only [filterMapM_eq_ok_iff, exists_and_left, exists_eq, and_true, perm.mem_iff]

theorem perm_of_perm {items reordered : List α} (perm : reordered.Perm items)
    {results given : List β} (scanned : items.filterMapM step = .ok results)
    (scannedAgain : reordered.filterMapM step = .ok given) : given.Perm results := by
  rw [(filterMapM_eq_ok_iff.mp scanned).2, (filterMapM_eq_ok_iff.mp scannedAgain).2]
  exact perm.filterMap _

/-- Where no item is skipped, the results stand at the places of their items. -/
theorem map_step_eq {items : List α} {results : List β}
    (filled : ∀ item ∈ items, step item ≠ .ok none)
    (scanned : items.filterMapM step = .ok results) :
    items.map step = results.map fun result => .ok (some result) := by
  induction items generalizing results with
  | nil =>
      cases scanned
      rfl
  | cons item rest ih =>
      rw [List.forall_mem_cons] at filled
      rcases exists_ok_of_mem scanned item List.mem_cons_self with ⟨result, stepped⟩
      rw [filterMapM_cons_ok stepped, map_eq_ok_iff] at scanned
      rcases scanned with ⟨later, scannedLater, rfl⟩
      cases result with
      | none => exact absurd stepped filled.1
      | some given => simp [stepped, ih filled.2 scannedLater]

/-- A scan fails exactly where some step fails and all earlier ones succeed. -/
theorem filterMapM_eq_error_iff {items : List α} {failure : ε} :
    items.filterMapM step = .error failure ↔
      ∃ before item after, items = before ++ item :: after ∧
        (∀ earlier ∈ before, ∃ result, step earlier = .ok result) ∧
        step item = .error failure := by
  constructor
  · intro scanned
    induction items with
    | nil => cases scanned
    | cons first rest ih =>
        cases stepped : step first with
        | error other =>
            rw [filterMapM_cons_error stepped] at scanned
            cases scanned
            exact ⟨[], first, rest, rfl, by simp, stepped⟩
        | ok result =>
            rw [filterMapM_cons_ok stepped] at scanned
            cases scannedRest : rest.filterMapM step with
            | ok later =>
                rw [scannedRest] at scanned
                cases scanned
            | error other =>
                rw [scannedRest] at scanned
                cases scanned
                rcases ih scannedRest with ⟨before, item, after, rfl, passed, failed⟩
                exact ⟨first :: before, item, after, rfl,
                  List.forall_mem_cons.mpr ⟨⟨result, stepped⟩, passed⟩, failed⟩
  · rintro ⟨before, item, after, rfl, passed, failed⟩
    induction before with
    | nil => exact filterMapM_cons_error failed
    | cons first more ih =>
        rw [List.forall_mem_cons] at passed
        rcases passed with ⟨⟨result, stepped⟩, later⟩
        rw [List.cons_append, filterMapM_cons_ok stepped, ih later]
        rfl

/-- The failure is what is wrong with the first item with which anything is wrong. -/
def FirstFails (fails : α → ε → Prop) (items : List α) (failure : ε) : Prop :=
  ∃ before item after, items = before ++ item :: after ∧
    (∀ earlier ∈ before, ∀ other, ¬fails earlier other) ∧ fails item failure

/-- If the steps fail with what is wrong with their items, a scan fails with what is wrong with the
first of them. -/
theorem filterMapM_eq_error_iff_firstFails {fails : α → ε → Prop} {items : List α}
    (each : ∀ item ∈ items, ∀ failure, step item = .error failure ↔ fails item failure)
    {failure : ε} : items.filterMapM step = .error failure ↔ FirstFails fails items failure := by
  rw [filterMapM_eq_error_iff, FirstFails]
  refine exists_congr fun before => exists_congr fun item => exists_congr fun after =>
    and_congr_right ?_
  rintro rfl
  have inBefore : ∀ earlier ∈ before, earlier ∈ before ++ item :: after := fun earlier mem =>
    List.mem_append_left _ mem
  apply and_congr
  · refine forall₂_congr fun earlier mem => ?_
    rw [exists_ok_iff]
    exact forall_congr' fun other => not_congr (each earlier (inBefore earlier mem) other)
  · exact each item (by simp) failure

end Rulebook.Scan
