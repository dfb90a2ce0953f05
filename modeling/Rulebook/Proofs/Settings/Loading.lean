import Mathlib
import Rulebook.Proofs.Settings.Merging
import Rulebook.Proofs.Text.Utf8

/-!
# Loading the settings file

A document gives settings if its sections are tables, every value in them that is a setting can be
read as one, and it has no other sections; a setting that it does not mention has its default. These
are the settings that are loaded, whatever the environment says. A file that is no such document is
passed over with a warning.

Two kinds of damage are not passed over: bytes that are not UTF-8, and a whole number with more
digits than are converted. There loading fails.
-/

namespace Rulebook

/-! ## What a document says -/

/-- What a document has in a section under a name. -/
def Toml.entryAt? (entries : Toml.Table) (sectionName name : String) : Option Toml :=
  match entries.lookup sectionName with
  | some (.table inner) => inner.lookup name
  | _ => none

/-- A document gives a setting the value that it has for it, and where it has none the default. -/
def Toml.Says {α : Type} (entries : Toml.Table) (sectionName name : String)
    (read : PlainValue → Option α) (default setting : α) : Prop :=
  match entryAt? entries sectionName name with
  | none => setting = default
  | some value => ∃ plain, value.toTree = .leaf plain ∧ read plain = some setting

namespace Settings

/-- The settings are those that a document gives. -/
structure AreGivenBy (settings : Settings) (entries : Toml.Table) : Prop where
  /-- A section is a table. -/
  tables : ∀ name ∈ sectionNames, ∀ value, entries.lookup name = some value →
    ∃ inner, value = .table inner
  /-- There are no other sections. One whose name differs in case only is passed over. -/
  known : ∀ name ∈ entries.map Prod.fst, lowerName name ∈ sectionNames
  baseUrl : Toml.Says entries "api" "base_url" PlainValue.toText? ApiSettings.default.baseUrl
    settings.api.baseUrl
  token : Toml.Says entries "api" "token" PlainValue.toText? ApiSettings.default.token
    settings.api.token
  timeout : Toml.Says entries "api" "timeout" PlainValue.toReal? ApiSettings.default.timeout
    settings.api.timeout
  level : Toml.Says entries "logging" "level" PlainValue.toText? LogSettings.default.level
    settings.log.level
  file : Toml.Says entries "logging" "file" PlainValue.toText? LogSettings.default.file
    settings.log.file
  toFile : Toml.Says entries "logging" "log_to_file" PlainValue.toSwitch?
    LogSettings.default.toFile settings.log.toFile

/-- What a document gives, over the defaults. -/
def overDefaults (entries : Toml.Table) : SettingsTree :=
  nameSections (Tree.mergeEntries Settings.default.toEntries (Toml.toEntries entries))

/-! ## Over the defaults -/

theorem lookup_toEntries (entries : Toml.Table) (name : String) :
    (Toml.toEntries entries).lookup name = (entries.lookup name).map Toml.toTree := by
  induction entries with
  | nil => rfl
  | cons first rest ih =>
      rcases first with ⟨other, value⟩
      rw [Toml.toEntries, List.lookup_cons, List.lookup_cons, ih]
      cases name == other <;> rfl

theorem names_toEntries (entries : Toml.Table) :
    (Toml.toEntries entries).map Prod.fst = entries.map Prod.fst := by
  induction entries with
  | nil => rfl
  | cons first rest ih =>
      rcases first with ⟨name, value⟩
      rw [Toml.toEntries, List.map_cons, ih, List.map_cons]

theorem lookup_nameSections {given : SettingsTree} {name : String} (isSection : name ∈ sectionNames)
    {tree : Tree PlainValue} (held : given.lookup name = some tree) :
    (nameSections given).lookup name = some tree := by
  have found : givenSection? given name = some tree := by
    rw [givenSection?, held]
    rfl
  simp only [sectionNames, List.mem_cons, List.not_mem_nil, or_false] at isSection
  rcases isSection with rfl | rfl
  · simp [nameSections, sectionNames, found]
  · cases above : givenSection? given "api" <;>
      simp [nameSections, sectionNames, found, above, List.lookup_cons]

theorem lowerName_of_isSection {name : String} (isSection : name ∈ sectionNames) :
    lowerName name = name := by
  simp only [sectionNames, List.mem_cons, List.not_mem_nil, or_false] at isSection
  rcases isSection with rfl | rfl <;> decide +kernel

theorem unknownNames_nameSections_eq_nil_iff {given : SettingsTree} :
    unknownNames (nameSections given) = [] ↔
      ∀ name ∈ given.map Prod.fst, lowerName name ∈ sectionNames := by
  simp only [unknownNames, List.filter_eq_nil_iff, nameSections, List.map_append, List.mem_append,
    List.mem_map, List.mem_filter, List.mem_filterMap, List.contains_eq_mem, Bool.not_eq_true',
    decide_eq_false_iff_not, not_not]
  constructor
  · rintro none _ ⟨entry, mem, rfl⟩
    by_contra unknown
    have named := none entry.1 (Or.inr ⟨entry, ⟨mem, unknown⟩, rfl⟩)
    exact unknown ((lowerName_of_isSection named).symm ▸ named)
  · rintro known name (⟨entry, ⟨found, isSection, read⟩, rfl⟩ | ⟨entry, ⟨mem, unknown⟩, rfl⟩)
    · rw [Option.map_eq_some_iff] at read
      rcases read with ⟨_, _, rfl⟩
      exact isSection
    · exact absurd (known entry.1 ⟨entry, mem, rfl⟩) unknown

/-- The defaults below a document bring no other sections. -/
theorem unknownNames_overDefaults_eq_nil_iff {entries : Toml.Table} :
    unknownNames (overDefaults entries) = [] ↔
      ∀ name ∈ entries.map Prod.fst, lowerName name ∈ sectionNames := by
  rw [overDefaults, unknownNames_nameSections_eq_nil_iff, Tree.mergeEntries, List.map_append,
    Tree.names_mergeShared, List.forall_mem_append]
  have defaults : ∀ name ∈ Settings.default.toEntries.map Prod.fst,
      lowerName name ∈ sectionNames := by
    intro name mem
    have isSection : name ∈ sectionNames := mem
    rwa [lowerName_of_isSection isSection]
  rw [and_iff_right defaults, ← names_toEntries]
  constructor
  · intro known name mem
    by_cases isSection : name ∈ Settings.default.toEntries.map Prod.fst
    · exact defaults name isSection
    · refine known name ?_
      rcases List.mem_map.mp mem with ⟨entry, memEntry, rfl⟩
      refine List.mem_map.mpr ⟨entry, List.mem_filter.mpr ⟨memEntry, ?_⟩, rfl⟩
      rw [Option.isNone_iff_eq_none, List.lookup_eq_none_iff]
      intro other memOther
      simp only [bne_iff_ne, ne_eq]
      intro same
      exact isSection (same ▸ List.mem_map_of_mem memOther)
  · intro known name mem
    rcases List.mem_map.mp mem with ⟨entry, memEntry, rfl⟩
    exact known entry.1 (List.mem_map_of_mem (List.mem_filter.mp memEntry).1)

/-- What lies over the defaults of a section has a value of its own for a setting, or else the
default. -/
theorem readSetting_overDefault {α : Type} {read : PlainValue → Option α} {default : α}
    {value : PlainValue} (isDefault : read value = some default) {base : SettingsTree}
    {name : String} (held : base.lookup name = some (.leaf value)) (sectionName : String)
    (entries : SettingsTree) :
    readSetting read sectionName name default (Tree.mergeEntries base entries) =
      readSetting read sectionName name default entries := by
  rw [readSetting, readSetting, Tree.lookup_mergeEntries, held]
  cases entries.lookup name with
  | none => simp [isDefault]
  | some upper => cases upper <;> rfl

theorem readApi_overDefaults (entries : Toml.Table) :
    readApi ((overDefaults entries).lookup "api") =
      readApi ((entries.lookup "api").map Toml.toTree) := by
  have given := Tree.lookup_mergeEntries Settings.default.toEntries (Toml.toEntries entries) "api"
  rw [lookup_toEntries] at given
  cases held : entries.lookup "api" with
  | none =>
      rw [held] at given
      rw [overDefaults, lookup_nameSections (by decide) given]
      rfl
  | some value =>
      rw [held] at given
      rw [overDefaults, lookup_nameSections (by decide) given]
      simp only [Option.map_some]
      cases tree : value.toTree with
      | leaf plain => rfl
      | branch inner =>
          have isText : ∀ text, PlainValue.toText? (.str text) = some text := fun _ => rfl
          have isReal : ∀ number, PlainValue.toReal? (.real number) = some number := fun _ => rfl
          change readApi (some (.branch (Tree.mergeEntries _ inner))) = _
          simp only [readApi]
          rw [readSetting_overDefault (isText _) rfl, readSetting_overDefault (isText _) rfl,
            readSetting_overDefault (isReal _) rfl]

theorem readLog_overDefaults (entries : Toml.Table) :
    readLog ((overDefaults entries).lookup "logging") =
      readLog ((entries.lookup "logging").map Toml.toTree) := by
  have given := Tree.lookup_mergeEntries Settings.default.toEntries (Toml.toEntries entries)
    "logging"
  rw [lookup_toEntries] at given
  cases held : entries.lookup "logging" with
  | none =>
      rw [held] at given
      rw [overDefaults, lookup_nameSections (by decide) given]
      rfl
  | some value =>
      rw [held] at given
      rw [overDefaults, lookup_nameSections (by decide) given]
      simp only [Option.map_some]
      cases tree : value.toTree with
      | leaf plain => rfl
      | branch inner =>
          have isText : ∀ text, PlainValue.toText? (.str text) = some text := fun _ => rfl
          have isSwitch : ∀ value, PlainValue.toSwitch? (.bool value) = some value := fun _ => rfl
          change readLog (some (.branch (Tree.mergeEntries _ inner))) = _
          simp only [readLog]
          rw [readSetting_overDefault (isText _) rfl, readSetting_overDefault (isText _) rfl,
            readSetting_overDefault (isSwitch _) rfl]

/-! ## Reading a document -/

theorem readSetting_toEntries_iff {α : Type} {read : PlainValue → Option α} {default setting : α}
    {entries inner : Toml.Table} {sectionName : String}
    (held : entries.lookup sectionName = some (.table inner)) (name : String) :
    readSetting read sectionName name default (Toml.toEntries inner) = ([], setting) ↔
      Toml.Says entries sectionName name read default setting := by
  rw [readSetting, lookup_toEntries, Toml.Says, Toml.entryAt?, held]
  simp only
  cases inner.lookup name with
  | none => simp [eq_comm]
  | some value =>
      simp only [Option.map_some]
      cases tree : value.toTree with
      | branch below => simp
      | leaf plain => cases readable : read plain <;> simp [readable]

theorem says_of_lookup_eq_none {α : Type} {read : PlainValue → Option α} {default setting : α}
    {entries : Toml.Table} {sectionName : String} (absent : entries.lookup sectionName = none)
    (name : String) :
    Toml.Says entries sectionName name read default setting ↔ setting = default := by
  rw [Toml.Says, Toml.entryAt?, absent]

theorem toTree_eq_branch {value : Toml} {below : SettingsTree}
    (tree : value.toTree = .branch below) : ∃ inner, value = .table inner ∧
      Toml.toEntries inner = below := by
  cases value with
  | table inner => exact ⟨inner, rfl, Tree.branch.inj tree⟩
  | bool | int | real | str | moment | arr => cases tree

theorem readApi_toTree_iff {entries : Toml.Table} {api : ApiSettings} :
    readApi ((entries.lookup "api").map Toml.toTree) = ([], api) ↔
      (∀ value, entries.lookup "api" = some value → ∃ inner, value = .table inner) ∧
      Toml.Says entries "api" "base_url" PlainValue.toText? ApiSettings.default.baseUrl
        api.baseUrl ∧
      Toml.Says entries "api" "token" PlainValue.toText? ApiSettings.default.token api.token ∧
      Toml.Says entries "api" "timeout" PlainValue.toReal? ApiSettings.default.timeout
        api.timeout := by
  cases held : entries.lookup "api" with
  | none =>
      rcases api with ⟨baseUrl, token, timeout⟩
      simp [says_of_lookup_eq_none held, readApi, ApiSettings.default, eq_comm]
  | some value =>
      simp only [Option.map_some, Option.some.injEq, forall_eq']
      cases tree : value.toTree with
      | leaf plain =>
          constructor
          · simp [readApi]
          · rintro ⟨⟨inner, rfl⟩, _⟩
            cases tree
      | branch below =>
          rcases toTree_eq_branch tree with ⟨inner, rfl, rfl⟩
          rcases api with ⟨baseUrl, token, timeout⟩
          simp only [← readSetting_toEntries_iff held, Prod.ext_iff, readApi,
            List.append_eq_nil_iff, ApiSettings.mk.injEq]
          constructor
          · rintro ⟨⟨⟨noUrl, noToken⟩, noTimeout⟩, url, token, timeout⟩
            exact ⟨⟨inner, rfl⟩, ⟨noUrl, url⟩, ⟨noToken, token⟩, noTimeout, timeout⟩
          · rintro ⟨_, ⟨noUrl, url⟩, ⟨noToken, token⟩, noTimeout, timeout⟩
            exact ⟨⟨⟨noUrl, noToken⟩, noTimeout⟩, url, token, timeout⟩

theorem readLog_toTree_iff {entries : Toml.Table} {log : LogSettings} :
    readLog ((entries.lookup "logging").map Toml.toTree) = ([], log) ↔
      (∀ value, entries.lookup "logging" = some value → ∃ inner, value = .table inner) ∧
      Toml.Says entries "logging" "level" PlainValue.toText? LogSettings.default.level log.level ∧
      Toml.Says entries "logging" "file" PlainValue.toText? LogSettings.default.file log.file ∧
      Toml.Says entries "logging" "log_to_file" PlainValue.toSwitch? LogSettings.default.toFile
        log.toFile := by
  cases held : entries.lookup "logging" with
  | none =>
      rcases log with ⟨level, file, toFile⟩
      simp [says_of_lookup_eq_none held, readLog, LogSettings.default, eq_comm]
  | some value =>
      simp only [Option.map_some, Option.some.injEq, forall_eq']
      cases tree : value.toTree with
      | leaf plain =>
          constructor
          · simp [readLog]
          · rintro ⟨⟨inner, rfl⟩, _⟩
            cases tree
      | branch below =>
          rcases toTree_eq_branch tree with ⟨inner, rfl, rfl⟩
          rcases log with ⟨level, file, toFile⟩
          simp only [← readSetting_toEntries_iff held, Prod.ext_iff, readLog,
            List.append_eq_nil_iff, LogSettings.mk.injEq]
          constructor
          · rintro ⟨⟨⟨noLevel, noFile⟩, noToFile⟩, level, file, toFile⟩
            exact ⟨⟨inner, rfl⟩, ⟨noLevel, level⟩, ⟨noFile, file⟩, noToFile, toFile⟩
          · rintro ⟨_, ⟨noLevel, level⟩, ⟨noFile, file⟩, noToFile, toFile⟩
            exact ⟨⟨⟨noLevel, noFile⟩, noToFile⟩, level, file, toFile⟩

/-- What lies over the defaults denotes exactly the settings that the document gives. -/
theorem ofEntries_overDefaults_iff {entries : Toml.Table} {settings : Settings} :
    ofEntries (overDefaults entries) = .ok settings ↔ settings.AreGivenBy entries := by
  have denoted : ofEntries (overDefaults entries) = .ok settings ↔
      readApi ((entries.lookup "api").map Toml.toTree) = ([], settings.api) ∧
      readLog ((entries.lookup "logging").map Toml.toTree) = ([], settings.log) ∧
      ∀ name ∈ entries.map Prod.fst, lowerName name ∈ sectionNames := by
    rw [ofEntries_eq, readApi_overDefaults, readLog_overDefaults,
      ← unknownNames_overDefaults_eq_nil_iff, Prod.ext_iff, Prod.ext_iff]
    rcases settings with ⟨api, log⟩
    split
    next nowhere =>
      rw [List.append_eq_nil_iff, List.append_eq_nil_iff] at nowhere
      rcases nowhere with ⟨⟨noApi, noLog⟩, noOther⟩
      simp [noApi, noLog, noOther]
    next somewhere =>
      refine ⟨nofun, ?_⟩
      rintro ⟨⟨noApi, _⟩, ⟨noLog, _⟩, noOther⟩
      exact absurd (by rw [noApi, noLog, noOther]; rfl) somewhere
  rw [denoted, readApi_toTree_iff, readLog_toTree_iff]
  constructor
  · rintro ⟨⟨api, baseUrl, token, timeout⟩, ⟨log, level, file, toFile⟩, known⟩
    have tables : ∀ name ∈ sectionNames, ∀ value, entries.lookup name = some value →
        ∃ inner, value = .table inner :=
      List.forall_mem_cons.mpr ⟨api, List.forall_mem_singleton.mpr log⟩
    exact ⟨tables, known, baseUrl, token, timeout, level, file, toFile⟩
  · intro given
    exact ⟨⟨given.tables "api" (by decide), given.baseUrl, given.token, given.timeout⟩,
      ⟨given.tables "logging" (by decide), given.level, given.file, given.toFile⟩, given.known⟩

/-- Together with the defaults a document has something for every setting. -/
theorem cover_overDefaults (entries : Toml.Table) : Cover (overDefaults entries) := by
  intro sectionName isSection
  have present : ∃ below, Settings.default.toEntries.lookup sectionName = some (.branch below) ∧
      ∀ name ∈ settingNames sectionName, ∃ setting, below.lookup name = some setting := by
    simp only [sectionNames, List.mem_cons, List.not_mem_nil, or_false] at isSection
    rcases isSection with rfl | rfl
    · refine ⟨_, rfl, ?_⟩
      simp [settingNames, List.lookup_cons]
    · refine ⟨_, rfl, ?_⟩
      simp [settingNames, List.lookup_cons]
  rcases present with ⟨below, held, complete⟩
  have given := Tree.lookup_mergeEntries Settings.default.toEntries (Toml.toEntries entries)
    sectionName
  rw [held] at given
  cases upper : (Toml.toEntries entries).lookup sectionName with
  | none =>
      rw [upper] at given
      refine ⟨_, lookup_nameSections isSection given, ?_⟩
      rintro _ ⟨⟩
      exact complete
  | some tree =>
      rw [upper] at given
      refine ⟨_, lookup_nameSections isSection given, ?_⟩
      intro merged isBranch name mem
      rcases complete name mem with ⟨setting, found⟩
      cases tree with
      | leaf value => cases isBranch
      | branch inner =>
          cases isBranch
          change ∃ setting, (Tree.mergeEntries below inner).lookup name = some setting
          rw [Tree.lookup_mergeEntries, found]
          cases inner.lookup name <;> exact ⟨_, rfl⟩

theorem assemble_overDefaults {environment : Environment} {bindings : SettingsTree}
    (read : ofEnvironment environment = .ok bindings) (entries : Toml.Table) :
    assemble environment (Tree.mergeEntries Settings.default.toEntries (Toml.toEntries entries)) =
      ofEntries (overDefaults entries) :=
  assemble_of_cover read (cover_overDefaults entries)

/-- Settings that a document gives are loaded from it, whatever the environment says. -/
theorem ofDocument_of_areGivenBy {environment : Environment} {bindings : SettingsTree}
    (read : ofEnvironment environment = .ok bindings) {entries : Toml.Table} {settings : Settings}
    (given : settings.AreGivenBy entries) (path : List Char) :
    ofDocument environment path entries = (.ok settings, []) := by
  rw [ofDocument, assemble_overDefaults read, ofEntries_overDefaults_iff.mpr given]

/-- A file gives the settings of the document that it holds. -/
def AreReadFrom (settings : Settings) (bytes : List UInt8) : Prop :=
  ∃ text entries, bytes = Text.utf8 text ∧ Toml.read text = .ok entries ∧
    settings.AreGivenBy entries

theorem load_of_read_eq_ok {text : List Char} {entries : Toml.Table}
    (parsed : Toml.read text = .ok entries) (environment : Environment) (path : List Char) :
    load environment path (some (Text.utf8 text)) = ofDocument environment path entries := by
  have decoded := Text.utf8Strict_eq_ok_iff.mpr (Eq.refl (Text.utf8 text))
  simp only [load, decoded, parsed]

theorem load_of_areReadFrom {environment : Environment} {bindings : SettingsTree}
    (read : ofEnvironment environment = .ok bindings) {settings : Settings} {bytes : List UInt8}
    (given : settings.AreReadFrom bytes) (path : List Char) :
    load environment path (some bytes) = (.ok settings, []) := by
  rcases given with ⟨text, entries, rfl, parsed, areGiven⟩
  rw [load_of_read_eq_ok parsed]
  exact ofDocument_of_areGivenBy read areGiven path

end Settings

end Rulebook
