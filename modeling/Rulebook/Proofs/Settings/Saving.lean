import Mathlib
import Rulebook.Proofs.Settings.Loading
import Rulebook.Proofs.Toml.Documents

/-!
# Saved settings

A file to which settings were saved holds a document that gives exactly these settings, so they are
loaded from it. What the environment says does not matter for any file that gives settings, because
the defaults under the document already cover every setting that a variable could fill in.
-/

namespace Rulebook.Settings

/-- Reading the environment does not fail. -/
def IsReadable (environment : Environment) : Prop :=
  ∃ bindings, ofEnvironment environment = .ok bindings

theorem isReadable_iff {environment : Environment} :
    IsReadable environment ↔ (ofEnvironment environment).toBool = true := by
  rw [IsReadable]
  cases ofEnvironment environment with
  | ok bindings => exact ⟨fun _ => rfl, fun _ => ⟨bindings, rfl⟩⟩
  | error failure => exact ⟨nofun, nofun⟩

instance : DecidablePred IsReadable :=
  fun _ => decidable_of_iff _ isReadable_iff.symm

/-- The file is a document, and what the document says over the defaults is accepted as the
settings. -/
def Validates (environment : Environment) (settings : Settings) (bytes : List UInt8) : Prop :=
  ∃ text entries, bytes = Text.utf8 text ∧ Toml.read text = .ok entries ∧
    assemble environment (Tree.mergeEntries Settings.default.toEntries (Toml.toEntries entries)) =
      .ok settings

/-- In every environment the same settings are accepted. -/
theorem validates_iff_areReadFrom {environment : Environment} (readable : IsReadable environment)
    {settings : Settings} {bytes : List UInt8} :
    Validates environment settings bytes ↔ settings.AreReadFrom bytes := by
  rcases readable with ⟨bindings, read⟩
  simp only [Validates, AreReadFrom, assemble_overDefaults read, ofEntries_overDefaults_iff]

/-! ## The saved document -/

/-- The settings as sections of a document. -/
def savedSections (settings : Settings) : List (String × Toml.Table) :=
  [("api", [("base_url", .str settings.api.baseUrl), ("token", .str settings.api.token),
      ("timeout", .real settings.api.timeout)]),
    ("logging", [("level", .str settings.log.level), ("file", .str settings.log.file),
      ("log_to_file", .bool settings.log.toFile)])]

/-- The names of the sections and of the settings need no quotes. -/
theorem isBareName_of_mem_names : ∀ name ∈
    ["api", "base_url", "token", "timeout", "logging", "level", "file", "log_to_file"],
    Toml.IsBareName name := by
  have bare : ["api", "base_url", "token", "timeout", "logging", "level", "file",
      "log_to_file"].all (fun name => !name.toList.isEmpty &&
        name.toList.all Toml.isBareKeyChar) = true := rfl
  intro name mem
  have isBare := List.all_eq_true.mp bare name mem
  rw [Bool.and_eq_true, Bool.not_eq_true', List.isEmpty_eq_false_iff, List.all_eq_true] at isBare
  exact ⟨isBare.1, isBare.2⟩

theorem read_fileText {settings : Settings} (isProper : settings.api.timeout.IsProper) :
    Toml.read settings.fileText = .ok (Toml.sectionTables settings.savedSections) := by
  have name := isBareName_of_mem_names
  refine Toml.read_writeSections ?_ (by simp [savedSections])
  refine .cons (name _ (by simp)) ?_ (by simp) (.cons (name _ (by simp)) ?_ (by simp) .nil)
  · exact .cons (name _ (by simp)) (Toml.denotes_text _) rfl
      (.cons (name _ (by simp)) (Toml.denotes_text _) rfl
        (.cons (name _ (by simp)) (Toml.denotes_of_isProper isProper) rfl .nil))
  · exact .cons (name _ (by simp)) (Toml.denotes_text _) rfl
      (.cons (name _ (by simp)) (Toml.denotes_text _) rfl
        (.cons (name _ (by simp)) (Toml.denotes_bool _) rfl .nil))

theorem areGivenBy_savedSections (settings : Settings) :
    settings.AreGivenBy (Toml.sectionTables settings.savedSections) where
  tables := by
    intro name isSection value held
    simp only [sectionNames, List.mem_cons, List.not_mem_nil, or_false] at isSection
    rcases isSection with rfl | rfl
    · exact ⟨_, (Option.some.inj held).symm⟩
    · exact ⟨_, (Option.some.inj held).symm⟩
  known := by
    intro name mem
    rw [Toml.names_sectionTables] at mem
    have isSection : name ∈ sectionNames := mem
    rwa [lowerName_of_isSection isSection]
  baseUrl := ⟨_, rfl, rfl⟩
  token := ⟨_, rfl, rfl⟩
  timeout := ⟨_, rfl, rfl⟩
  level := ⟨_, rfl, rfl⟩
  file := ⟨_, rfl, rfl⟩
  toFile := ⟨_, rfl, rfl⟩

theorem areReadFrom_fileBytes_of_isProper {settings : Settings}
    (isProper : settings.api.timeout.IsProper) : settings.AreReadFrom settings.fileBytes :=
  ⟨_, _, rfl, read_fileText isProper, areGivenBy_savedSections settings⟩

theorem areReadFrom_fileBytes {settings : Settings}
    (finite : settings.api.timeout.IsFiniteNumber) : settings.AreReadFrom settings.fileBytes :=
  areReadFrom_fileBytes_of_isProper fun _ => finite

/-! ## Loading what was saved -/

/-- The settings that were saved are loaded again, and from any file that validates the same
settings are loaded, whatever the environments say. -/
theorem load_fileBytes_and_load_of_validates {environment other : Environment}
    (readable : IsReadable environment) (otherReadable : IsReadable other)
    (path otherPath : List Char) :
    (∀ settings : Settings, settings.api.timeout.IsFiniteNumber →
      load environment path (some settings.fileBytes) = (.ok settings, [])) ∧
    ∀ (settings : Settings) (bytes : List UInt8), Validates environment settings bytes →
      load environment path (some bytes) = (.ok settings, []) ∧
      load other otherPath (some bytes) = (.ok settings, []) := by
  have loaded {anywhere : Environment} (isReadable : IsReadable anywhere) {settings : Settings}
      {bytes : List UInt8} (given : settings.AreReadFrom bytes) (place : List Char) :
      load anywhere place (some bytes) = (.ok settings, []) := by
    rcases isReadable with ⟨bindings, read⟩
    exact load_of_areReadFrom read given place
  refine ⟨fun settings finite => ?_, fun settings bytes valid => ?_⟩
  · exact loaded readable (areReadFrom_fileBytes finite) path
  · rw [validates_iff_areReadFrom readable] at valid
    exact ⟨loaded readable valid path, loaded otherReadable valid otherPath⟩

/-- A variable sets the token, and another one the section of the log. The saved settings have
quotes, backslashes and control characters in them and wait for a quarter of a second; the other
file has a single setting and a name that is none. -/
theorem load_fileBytes_and_load_of_validates_withVariables :
    let environment : Environment := [("ZIGRAN_API__TOKEN", "secret")]
    let other : Environment := [("Zigran_Logging", "\x7b\"level\": \"debug\"\x7d")]
    let saved : Settings :=
      ⟨⟨"http://localhost\\", "\"\t\r\n\x00", .finite false (2 ^ 52) (-54)⟩, ⟨"", "~", true⟩⟩
    let bytes := Text.utf8 "[api]\ntoken = 'mine'\nowner = 1\n".toList
    let given : Settings := ⟨{ ApiSettings.default with token := "mine" }, .default⟩
    IsReadable environment ∧ IsReadable other ∧ saved.api.timeout.IsFiniteNumber ∧
      Validates environment given bytes ∧
      load environment [] (some saved.fileBytes) = (.ok saved, []) ∧
      load environment [] (some bytes) = (.ok given, []) ∧
      load other [] (some bytes) = (.ok given, []) := by
  intro environment other saved bytes given
  have readable : IsReadable environment := by decide +kernel
  have otherReadable : IsReadable other := by decide +kernel
  have finite : saved.api.timeout.IsFiniteNumber :=
    .finite false (by decide) (by decide) (by decide) (by decide)
  have read : Toml.read "[api]\ntoken = 'mine'\nowner = 1\n".toList =
      .ok [("api", .table [("token", .str "mine"), ("owner", .int 1)])] := by cbv
  have valid : Validates environment given bytes := ⟨_, _, rfl, read, by decide +kernel⟩
  have loads := load_fileBytes_and_load_of_validates readable otherReadable [] []
  exact ⟨readable, otherReadable, finite, valid, loads.1 saved finite, loads.2 given bytes valid⟩

end Rulebook.Settings
