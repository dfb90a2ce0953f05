import Mathlib
import Rulebook.Proofs.CommandLine.Runs
import Rulebook.Proofs.Settings.Keys
import Rulebook.Proofs.Settings.Saving
import Rulebook.Proofs.Settings.Sources

/-!
# Changing a single setting

A run that gives a setting a value writes all settings to the file, the one with its new value and
the others as they were loaded. Whatever the environment says, the next run loads them so. A key
that is that of no setting, and a text that is no number where one is needed, are rejected, and the
file stays as it was.

Before all this the log is set up as the old settings say. A run that fails there changes nothing,
and so cannot put right the very setting at which it fails. Of the file system it is assumed that
the log can be opened at every path that is not seen to be that of a directory, which leaves out
other directories, parents that are files, names that are too long and missing permissions, and that
the log goes to another file than the settings.
-/

namespace Rulebook

namespace Settings

/-! ## The file -/

/-- What is loaded can be saved and is loaded again. -/
theorem load_fileBytes {environment : Environment} (readable : IsReadable environment)
    (path : List Char) {settings : Settings} (isProper : settings.api.timeout.IsProper) :
    load environment path (some settings.fileBytes) = (.ok settings, []) := by
  rcases readable with ⟨bindings, read⟩
  exact load_of_areReadFrom read (areReadFrom_fileBytes_of_isProper isProper) path

theorem isReadable_of_load {environment : Environment} {path : List Char}
    {file : Option (List UInt8)} {settings : Settings}
    (loads : (load environment path file).1 = .ok settings) : IsReadable environment := by
  rcases exists_assemble_of_load loads with ⟨given, _, assembled⟩
  rw [assemble] at assembled
  split at assembled
  · cases assembled
  · next bindings read => exact ⟨bindings, read⟩

end Settings

namespace CommandLine

variable {σ : Type}

/-! ## The command -/

/-- An accepted value is written to the file with all other settings, even if what is then to be
printed has a fault. -/
theorem file_execute_setSetting (surroundings : Surroundings σ) (start : Run σ)
    {settings changed : Settings} {key text : String} {value : Json}
    (loads : Loads surroundings start settings)
    (assigned : settings.assign key text = .ok (changed, value)) :
    (Program.execute (setSetting key text) surroundings start).2.file = some changed.fileBytes := by
  rcases Program.execute_loadSettings surroundings start loads with ⟨records, loaded⟩
  rw [setSetting, Program.execute_bind, loaded]
  simp only [assigned, Program.execute_bind, Program.execute_read, Program.execute_modify,
    Program.sayIn, Program.execute_say]
  split <;> rfl

theorem execute_setSetting_of_error (surroundings : Surroundings σ) (start : Run σ)
    {settings : Settings} {key text : String} {fault : Settings.AssignFault}
    (loads : Loads surroundings start settings)
    (assigned : settings.assign key text = .error fault) :
    let done := Program.execute (setSetting key text) surroundings start
    exitCode done.1 = 1 ∧ done.2.file = start.file := by
  rcases Program.execute_loadSettings surroundings start loads with ⟨records, loaded⟩
  rw [setSetting, Program.execute_bind, loaded]
  simp only [assigned, Program.execute_reject]
  cases Console.printed (Program.styled "red" (assignFaultText key fault)) with
  | ok shown => exact ⟨rfl, rfl⟩
  | error failure => exact ⟨rfl, rfl⟩

/-! ## The log -/

/-- A word in any case gives a level unless it is the name of the standard line format or of the
table of formats. -/
def GivesLevel (word : String) : Prop :=
  String.ofList (Text.upper word.toList) ∉ ["BASIC_FORMAT", "_STYLES"]

instance : DecidablePred GivesLevel :=
  fun _ => inferInstanceAs (Decidable (_ ∉ _))

/-- The log can be set up from settings: its level is one, unless details are asked for, and its
file has a path, which is not that of a directory if the log goes there and can then be opened. -/
structure HasUsableLog (homes : Settings.Homes) (settings : Settings) (verbose : Bool) : Prop where
  level : verbose = true ∨ GivesLevel settings.log.level
  path : ∃ path, settings.logPath homes = .ok path ∧
    (settings.log.toFile = true → '\x00' ∉ path ∧ isDirectoryPath homes.own path = false)

theorem exists_levelOfWord_iff {word : String} :
    (∃ level, levelOfWord word = .ok level) ↔ GivesLevel word := by
  have noLevels : ∀ upper ∈ ["BASIC_FORMAT", "_STYLES"], levelWords.lookup upper = none := by
    decide +kernel
  rw [levelOfWord, GivesLevel]
  generalize String.ofList (Text.upper word.toList) = upper
  cases named : levelWords.lookup upper with
  | some level =>
      refine ⟨fun _ mem => ?_, fun _ => ⟨level, rfl⟩⟩
      rw [noLevels upper mem] at named
      cases named
  | none =>
      simp only
      by_cases isFormat : upper = "BASIC_FORMAT"
      · simp [isFormat]
      · by_cases isTable : upper = "_STYLES" <;> simp [isFormat, isTable]

theorem exists_prepareLog_iff {surroundings : Surroundings σ} {start : Run σ} {settings : Settings}
    (loads : Loads surroundings start settings) (verbose : Bool) :
    (∃ setup, prepareLog surroundings start.file verbose = .ok setup) ↔
      HasUsableLog surroundings.homes settings verbose := by
  have named :
      (∃ level, levelOfWord (if verbose then "DEBUG" else settings.log.level) = .ok level) ↔
        (verbose = true ∨ GivesLevel settings.log.level) := by
    have details : levelOfWord "DEBUG" = .ok .debug := by decide +kernel
    cases verbose with
    | true => exact iff_of_true ⟨_, details⟩ (Or.inl rfl)
    | false => simpa using exists_levelOfWord_iff
  rw [Loads] at loads
  simp only [prepareLog, loads, LogSetup.create]
  constructor
  · rintro ⟨setup, prepared⟩
    split at prepared
    · cases prepared
    · next path located =>
      split at prepared
      · cases prepared
      · next created =>
        split at created
        · cases created
        · next level isLevel =>
          refine ⟨named.mp ⟨level, isLevel⟩, path, located, fun toFile => ?_⟩
          split_ifs at prepared with noFile zero directory
          · simp [toFile] at noFile
          · simpa using And.intro zero directory
  · rintro ⟨level, path, located, isFile⟩
    rcases named.mpr level with ⟨number, isLevel⟩
    rw [located, isLevel]
    simp only
    cases toFile : settings.log.toFile with
    | false => simp
    | true =>
        rcases isFile toFile with ⟨noZero, noDirectory⟩
        simp [noZero, noDirectory]

/-! ## The whole run -/

/-- A run that gives a setting a value does so and nothing else, judged by what is loaded from the
file after it, or it rejects the key or the text and leaves the file alone. -/
structure SetsOne (surroundings : Surroundings σ) (start : Run σ) (settings : Settings)
    (key text : String) (outcome : Outcome σ) : Prop where
  set : ∀ setting value, key = setting.dotted → Settings.StandsFor text setting value →
    ∃ changed,
      (Settings.load surroundings.environment surroundings.settingsPath outcome.file).1 =
        .ok changed ∧
      settings.ChangedIn setting value changed
  rejected : Settings.Rejects key text → outcome.code = 1 ∧ outcome.file = start.file

section Runs

variable {surroundings : Surroundings σ} {start : Run σ} {settings : Settings}
  {arguments : List String} {key text : String} {verbose : Bool}

theorem setsOne_of_prepared (asks : AskFor arguments (.setSetting key text) verbose)
    (loads : Loads surroundings start settings) {setup : LogSetup}
    (prepared : prepareLog surroundings start.file verbose = .ok setup) :
    SetsOne surroundings start settings key text (runWith surroundings arguments start) := by
  have run := runWith_of_prepared asks prepared
  refine ⟨?_, fun rejects => ?_⟩
  · rintro setting value rfl stands
    rcases Settings.exists_assign_eq_ok stands settings with ⟨changed, assigned, set, changedIn⟩
    refine ⟨changed, ?_, changedIn⟩
    have isProper := Settings.isProper_timeout_of_set? (Settings.isProper_timeout_of_load loads) set
    rw [run.2.2]
    change (Settings.load _ _ (Program.execute (setSetting _ _) _ _).2.file).1 = _
    rw [file_execute_setSetting surroundings start loads assigned,
      Settings.load_fileBytes (Settings.isReadable_of_load loads) _ isProper]
  · rcases Settings.exists_assign_eq_error_iff.mpr rejects with ⟨fault, assigned⟩
    rw [run.1, run.2.2]
    exact execute_setSetting_of_error surroundings start loads assigned

/-- Where the log cannot be set up, nothing is changed. -/
theorem setsOne_iff_of_unprepared (asks : AskFor arguments (.setSetting key text) verbose)
    (loads : Loads surroundings start settings) {failure : Failure}
    (unprepared : prepareLog surroundings start.file verbose = .error failure) :
    SetsOne surroundings start settings key text (runWith surroundings arguments start) ↔
      ∀ setting value, key = setting.dotted → Settings.StandsFor text setting value →
        settings.get setting = value := by
  have run := runWith_of_unprepared asks unprepared
  constructor
  · intro sets setting value isKey stands
    rcases sets.set setting value isKey stands with ⟨changed, later, changedIn⟩
    rw [run.2.2] at later
    rw [Loads, later] at loads
    cases loads
    exact changedIn.assigned
  · intro nothing
    refine ⟨fun setting value isKey stands => ⟨settings, ?_, ?_⟩, fun _ => ⟨run.1, run.2.2⟩⟩
    · rw [run.2.2]
      exact loads
    · exact ⟨nothing setting value isKey stands, fun _ _ => rfl⟩

/-- A run changes the one setting and nothing else exactly if the log can be set up, or there is
nothing to change. -/
theorem setsOne_iff (asks : AskFor arguments (.setSetting key text) verbose)
    (loads : Loads surroundings start settings) :
    SetsOne surroundings start settings key text (runWith surroundings arguments start) ↔
      HasUsableLog surroundings.homes settings verbose ∨
        ∀ setting value, key = setting.dotted → Settings.StandsFor text setting value →
          settings.get setting = value := by
  rw [← exists_prepareLog_iff loads]
  cases prepared : prepareLog surroundings start.file verbose with
  | ok setup => exact iff_of_true (setsOne_of_prepared asks loads prepared) (Or.inl ⟨setup, rfl⟩)
  | error failure =>
      rw [setsOne_iff_of_unprepared asks loads prepared]
      exact ⟨Or.inr, fun either => either.resolve_left nofun⟩

end Runs

/-- A variable gives the token, and there is no file yet. -/
theorem setsOne_timeout :
    let arguments := ["config", "set", "--", "api.timeout", "2.5"]
    let surroundings := offline [("ZIGRAN_API__TOKEN", "secret")]
    let settings : Settings := { Settings.default with
      api := { ApiSettings.default with token := "secret" } }
    AskFor arguments (.setSetting "api.timeout" "2.5") false ∧
      Loads surroundings (startWith none) settings ∧
      HasUsableLog surroundings.homes settings false ∧
      SetsOne surroundings (startWith none) settings "api.timeout" "2.5"
        (runWith surroundings arguments (startWith none)) := by
  intro arguments surroundings settings
  have asks : AskFor arguments (.setSetting "api.timeout" "2.5") false := askFor_setSetting _ _
  have loads : Loads surroundings (startWith none) settings := by decide +kernel
  have usable : HasUsableLog surroundings.homes settings false :=
    ⟨Or.inr (by decide +kernel), "/root/.local/share/zigran/automations.log".toList,
      by decide +kernel, nofun⟩
  exact ⟨asks, loads, usable, (setsOne_iff asks loads).mpr (Or.inl usable)⟩

/-- The level in the file is the name of the line format, and without details in the log it cannot
be set to another. -/
theorem not_setsOne_lineFormat :
    let arguments := ["config", "set", "logging.level", "info"]
    let start := startWith (some (Text.utf8 "[logging]\nlevel = \"basic_format\"\n".toList))
    let settings : Settings := { Settings.default with
      log := { LogSettings.default with level := "basic_format" } }
    AskFor arguments (.setSetting "logging.level" "info") false ∧
      Loads (offline []) start settings ∧
      ¬ SetsOne (offline []) start settings "logging.level" "info"
        (runWith (offline []) arguments start) := by
  intro arguments start settings
  have asks : AskFor arguments (.setSetting "logging.level" "info") false := ⟨_, _, rfl, rfl⟩
  have read : Toml.read "[logging]\nlevel = \"basic_format\"\n".toList =
      .ok [("logging", .table [("level", .str "basic_format")])] := by cbv
  have loads : Loads (offline []) start settings := by
    rw [Loads]
    change (Settings.load _ _ (some (Text.utf8 _))).1 = _
    rw [Settings.load_of_read_eq_ok read]
    decide +kernel
  have notUsable : ¬ HasUsableLog (offline []).homes settings false := by
    intro usable
    exact absurd usable.level (by decide +kernel)
  refine ⟨asks, loads, fun sets => ?_⟩
  cases prepared : prepareLog (offline []) start.file false with
  | ok setup => exact notUsable ((exists_prepareLog_iff loads false).mp ⟨setup, prepared⟩)
  | error failure =>
      have nothing := (setsOne_iff_of_unprepared asks loads prepared).mp sets
      exact absurd (nothing .logLevel (.str "info") rfl .logLevel) (by decide +kernel)

end CommandLine

end Rulebook
