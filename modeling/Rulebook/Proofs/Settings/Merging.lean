import Mathlib
import Rulebook.Settings.Environment
import Rulebook.Settings.Storage

/-!
# What the file hides

Of two merged trees the upper one decides wherever it has a value. The settings file is laid over
the defaults, so together they have something for every setting, and laid over the environment they
hide it: what the environment says for a setting is not looked at, nor is it looked at where the
file has something wrong for a setting or a section.
-/

namespace Rulebook

namespace Tree

variable {α : Type}

/-! ## Looking things up in merged trees -/

theorem newEntries_cons (base override : Entries α) (name : String) (tree : Tree α) :
    newEntries base ((name, tree) :: override) =
      if (base.lookup name).isNone then (name, tree) :: newEntries base override
      else newEntries base override :=
  List.filter_cons

theorem lookup_newEntries (base override : Entries α) (name : String) :
    (newEntries base override).lookup name =
      if (base.lookup name).isNone then override.lookup name else none := by
  induction override with
  | nil => simp [newEntries]
  | cons first rest ih =>
      rcases first with ⟨other, tree⟩
      rw [newEntries_cons, List.lookup_cons]
      cases same : name == other with
      | true =>
          cases eq_of_beq same
          cases held : base.lookup name with
          | none => simp
          | some value => simpa [held] using ih
      | false =>
          split
          · rw [List.lookup_cons, same, ih]
          · rw [ih]

theorem lookup_mergeShared (base override : Entries α) (name : String) :
    (mergeShared base override).lookup name =
      (base.lookup name).map fun value =>
        match override.lookup name with
        | some upper => value.merge upper
        | none => value := by
  induction base with
  | nil => rfl
  | cons first rest ih =>
      rcases first with ⟨other, value⟩
      rw [mergeShared, List.lookup_cons, List.lookup_cons]
      cases same : name == other with
      | false => exact ih
      | true =>
          cases eq_of_beq same
          rfl

/-- A name has what the two entries under it merge to, or what one of them has alone. -/
theorem lookup_mergeEntries (base override : Entries α) (name : String) :
    (mergeEntries base override).lookup name =
      match base.lookup name, override.lookup name with
      | some value, some upper => some (value.merge upper)
      | some value, none => some value
      | none, upper => upper := by
  rw [mergeEntries, List.lookup_append, lookup_mergeShared, lookup_newEntries]
  cases base.lookup name <;> cases override.lookup name <;> rfl

theorem names_mergeShared (base override : Entries α) :
    (mergeShared base override).map Prod.fst = base.map Prod.fst := by
  induction base with
  | nil => rfl
  | cons first rest ih => rw [mergeShared, List.map_cons, ih, List.map_cons]

end Tree

namespace Settings

/-! ## Hidden sources -/

/-- The trees have something for every setting, unless what they have for a section is no
section. -/
def Cover (given : SettingsTree) : Prop :=
  ∀ sectionName ∈ sectionNames, ∃ tree, given.lookup sectionName = some tree ∧
    ∀ entries, tree = .branch entries → ∀ name ∈ settingNames sectionName,
      ∃ setting, entries.lookup name = some setting

/-- A setting that is given hides the one below it. -/
theorem readSetting_mergeEntries {α : Type} (read : PlainValue → Option α)
    (sectionName name : String) (default : α) (base : SettingsTree) {entries : SettingsTree}
    (given : ∃ setting, entries.lookup name = some setting) :
    readSetting read sectionName name default (Tree.mergeEntries base entries) =
      readSetting read sectionName name default entries := by
  rcases given with ⟨setting, held⟩
  rw [readSetting, readSetting, Tree.lookup_mergeEntries, held]
  cases base.lookup name with
  | none => rfl
  | some below => cases below <;> cases setting <;> rfl

/-- A section that is given hides the one below it. -/
theorem readApi_merge (base : Tree PlainValue) {tree : Tree PlainValue}
    (covers : ∀ entries, tree = .branch entries → ∀ name ∈ settingNames "api",
      ∃ setting, entries.lookup name = some setting) :
    readApi (some (base.merge tree)) = readApi (some tree) := by
  cases tree with
  | leaf value => cases base <;> rfl
  | branch entries =>
      cases base with
      | leaf value => rfl
      | branch below =>
          have given := covers entries rfl
          change readApi (some (.branch (Tree.mergeEntries below entries))) = _
          simp only [readApi]
          rw [readSetting_mergeEntries _ _ _ _ below (given "base_url" (by decide)),
            readSetting_mergeEntries _ _ _ _ below (given "token" (by decide)),
            readSetting_mergeEntries _ _ _ _ below (given "timeout" (by decide))]

theorem readLog_merge (base : Tree PlainValue) {tree : Tree PlainValue}
    (covers : ∀ entries, tree = .branch entries → ∀ name ∈ settingNames "logging",
      ∃ setting, entries.lookup name = some setting) :
    readLog (some (base.merge tree)) = readLog (some tree) := by
  cases tree with
  | leaf value => cases base <;> rfl
  | branch entries =>
      cases base with
      | leaf value => rfl
      | branch below =>
          have given := covers entries rfl
          change readLog (some (.branch (Tree.mergeEntries below entries))) = _
          simp only [readLog]
          rw [readSetting_mergeEntries _ _ _ _ below (given "level" (by decide)),
            readSetting_mergeEntries _ _ _ _ below (given "file" (by decide)),
            readSetting_mergeEntries _ _ _ _ below (given "log_to_file" (by decide))]

/-- The names at the top that are not those of sections. -/
def unknownNames (given : SettingsTree) : List String :=
  (given.map Prod.fst).filter fun name => !sectionNames.contains name

theorem unknownNames_mergeEntries {base : SettingsTree}
    (known : ∀ name ∈ base.map Prod.fst, name ∈ sectionNames) (given : SettingsTree) :
    unknownNames (Tree.mergeEntries base given) = unknownNames given := by
  have below : (base.map Prod.fst).filter (fun name => !sectionNames.contains name) = [] := by
    rw [List.filter_eq_nil_iff]
    intro name mem
    simpa using known name mem
  rw [unknownNames, Tree.mergeEntries, List.map_append, List.filter_append,
    Tree.names_mergeShared, below, List.nil_append, unknownNames]
  induction given with
  | nil => rfl
  | cons first rest ih =>
      rcases first with ⟨name, tree⟩
      rw [Tree.newEntries_cons, List.map_cons, List.filter_cons, ← ih]
      by_cases isKnown : name ∈ sectionNames
      · split <;> simp [isKnown]
      · have absent : base.lookup name = none := by
          rw [List.lookup_eq_none_iff]
          intro entry mem
          have named := known entry.1 (List.mem_map_of_mem mem)
          simp only [bne_iff_ne, ne_eq]
          rintro rfl
          exact isKnown named
        simp [absent, isKnown]

theorem ofEntries_eq (given : SettingsTree) :
    ofEntries given =
      match (readApi (given.lookup "api")).1 ++ (readLog (given.lookup "logging")).1 ++
        unknownNames given with
      | [] => .ok ⟨(readApi (given.lookup "api")).2, (readLog (given.lookup "logging")).2⟩
      | places => .error (.invalidSettings places) := rfl

/-- What covers all settings hides what lies below it, as long as this has no other sections. -/
theorem ofEntries_mergeEntries {base given : SettingsTree}
    (known : ∀ name ∈ base.map Prod.fst, name ∈ sectionNames) (covers : Cover given) :
    ofEntries (Tree.mergeEntries base given) = ofEntries given := by
  rcases covers "api" (by decide) with ⟨api, heldApi, coversApi⟩
  rcases covers "logging" (by decide) with ⟨log, heldLog, coversLog⟩
  have sameApi : readApi ((Tree.mergeEntries base given).lookup "api") =
      readApi (given.lookup "api") := by
    rw [Tree.lookup_mergeEntries, heldApi]
    cases base.lookup "api" with
    | none => rfl
    | some below => exact readApi_merge below coversApi
  have sameLog : readLog ((Tree.mergeEntries base given).lookup "logging") =
      readLog (given.lookup "logging") := by
    rw [Tree.lookup_mergeEntries, heldLog]
    cases base.lookup "logging" with
    | none => rfl
    | some below => exact readLog_merge below coversLog
  rw [ofEntries_eq, ofEntries_eq, sameApi, sameLog, unknownNames_mergeEntries known]

/-! ## The environment -/

/-- The environment gives sections and nothing else. -/
theorem mem_sectionNames_of_ofEnvironment {environment : Environment} {bindings : SettingsTree}
    (given : ofEnvironment environment = .ok bindings) :
    ∀ name ∈ bindings.map Prod.fst, name ∈ sectionNames := by
  simp only [ofEnvironment] at given
  split at given
  · cases given
  next api _ =>
  split at given
  · cases given
  next log _ =>
  cases given
  cases api <;> cases log <;> simp [sectionNames]

/-- Where the environment can be read at all, it does not matter to what covers all settings. -/
theorem assemble_of_cover {environment : Environment} {bindings given : SettingsTree}
    (read : ofEnvironment environment = .ok bindings) (covers : Cover (nameSections given)) :
    assemble environment given = ofEntries (nameSections given) := by
  rw [assemble, read]
  exact ofEntries_mergeEntries (mem_sectionNames_of_ofEnvironment read) covers

end Settings

end Rulebook
