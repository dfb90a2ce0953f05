import Mathlib
import Rulebook.CommandLine.Program

/-!
# Runs of the program

A run that understands its arguments sets up the log and then executes one command. The parts of a
command are executed one after the other, and the first one that stops ends the run. What is
printed, the exit code and the settings file after the run are those of the command, or, where the
log cannot be set up, those from before and a failure.
-/

namespace Rulebook.CommandLine

variable {σ α β : Type}

/-- The arguments ask for a command, with or without details in the log. -/
structure AskFor (arguments : List String) (command : Command) (verbose : Bool) : Prop where
  understood : ∃ group rest, invocation? arguments = some ⟨verbose, group, rest⟩ ∧
    groupCommand? group rest = some command

/-- Any key may be asked for behind a double hyphen. -/
theorem askFor_getSetting (key : String) :
    AskFor ["config", "get", "--", key] (.getSetting key) false :=
  ⟨_, _, rfl, rfl⟩

/-- Any key may be given any value behind a double hyphen. -/
theorem askFor_setSetting (key value : String) :
    AskFor ["config", "set", "--", key, value] (.setSetting key value) false :=
  ⟨_, _, rfl, rfl⟩

/-- The settings are loaded where a run begins. -/
def Loads (surroundings : Surroundings σ) (start : Run σ) (settings : Settings) : Prop :=
  (Settings.load surroundings.environment surroundings.settingsPath start.file).1 = .ok settings

instance (surroundings : Surroundings σ) (start : Run σ) (settings : Settings) :
    Decidable (Loads surroundings start settings) :=
  inferInstanceAs (Decidable (_ = _))

/-- A place where no backend answers, with its variables. -/
def offline (environment : Settings.Environment) : Surroundings Unit where
  environment := environment
  settingsPath := "config.toml".toList
  homes := ⟨"/root".toList, []⟩
  answer := fun _ state => (.unreachable "" "ConnectError", state)

/-- The beginning of a run, with the settings file. -/
def startWith (file : Option (List UInt8)) : Run Unit :=
  ⟨.start (), file, [], []⟩

/-! ## Parts of a command -/

namespace Program

/-- What a part of a command comes to, and the run behind it. -/
def execute (program : Program σ α) (surroundings : Surroundings σ) (run : Run σ) :
    Except Stop α × Run σ :=
  (program.run surroundings).run.run run

variable (surroundings : Surroundings σ) (run : Run σ)

theorem execute_bind (program : Program σ α) (next : α → Program σ β) :
    (program >>= next).execute surroundings run =
      match program.execute surroundings run with
      | (.ok value, later) => (next value).execute surroundings later
      | (.error stop, later) => (.error stop, later) := by
  rcases done : program.execute surroundings run with ⟨result, later⟩
  rw [execute] at done
  cases result with
  | ok value =>
      simp only [execute, ReaderT.run_bind, ExceptT.run_bind, StateT.run_bind, done]
      rfl
  | error stop =>
      simp only [execute, ReaderT.run_bind, ExceptT.run_bind, StateT.run_bind, done]
      rfl

theorem execute_read :
    (read : Program σ (Surroundings σ)).execute surroundings run = (.ok surroundings, run) := rfl

theorem execute_get : (get : Program σ (Run σ)).execute surroundings run = (.ok run, run) := rfl

theorem execute_set (later : Run σ) :
    (set later : Program σ PUnit).execute surroundings run = (.ok ⟨⟩, later) := rfl

theorem execute_modify (change : Run σ → Run σ) :
    (modify change : Program σ PUnit).execute surroundings run = (.ok ⟨⟩, change run) := rfl

theorem execute_orFail (result : Except Failure α) :
    (orFail result).execute surroundings run = (result.mapError .failed, run) := by
  cases result <;> rfl

/-- What is printed comes behind what was printed before, unless it has a fault. -/
theorem execute_say (text : List Char) :
    (say text).execute surroundings run =
      match Console.printed text with
      | .ok shown => (.ok (), { run with printed := run.printed ++ shown })
      | .error failure => (.error (.failed failure), run) := by
  rw [say, execute_bind, execute_orFail]
  cases Console.printed text <;> rfl

/-- A text between tags of a style. -/
def styled (style : String) (text : List Char) : List Char :=
  '[' :: style.toList ++ ']' :: text ++ '[' :: '/' :: style.toList ++ [']']

/-- A rejected command prints the reason, unless it has a fault, and stops. -/
theorem execute_reject (text : List Char) :
    (reject text : Program σ α).execute surroundings run =
      match Console.printed (styled "red" text) with
      | .ok shown => (.error (.exit 1), { run with printed := run.printed ++ shown })
      | .error failure => (.error (.failed failure), run) := by
  rw [reject, execute_bind, sayIn, ← styled, execute_say]
  cases Console.printed (styled "red" text) <;> rfl

/-- Loading the settings changes nothing but the records of the run. -/
theorem execute_loadSettings {settings : Settings} (loads : Loads surroundings run settings) :
    ∃ records, loadSettings.execute surroundings run =
      (.ok settings, { run with session := { run.session with log := records } }) := by
  rcases loaded : Settings.load surroundings.environment surroundings.settingsPath run.file with
    ⟨result, records⟩
  rw [Loads, loaded] at loads
  cases loads
  simp only [loadSettings, execute_bind, execute_read, execute_get, execute_set, loaded,
    execute_orFail]
  exact ⟨_, rfl⟩

end Program

/-! ## Whole runs -/

/-- The exit code for what a command comes to. -/
def exitCode : Except Stop Unit → Nat
  | .ok () => 0
  | .error (.exit code) => code
  | .error _ => 1

section Runs

variable {surroundings : Surroundings σ} {start : Run σ} {arguments : List String}
  {command : Command} {verbose : Bool}

/-- A run whose log can be set up is a run of its command. -/
theorem runWith_of_prepared (asks : AskFor arguments command verbose) {setup : LogSetup}
    (prepared : prepareLog surroundings start.file verbose = .ok setup) :
    let done := (perform command).execute surroundings start
    (runWith surroundings arguments start).code = exitCode done.1 ∧
      (runWith surroundings arguments start).printed = done.2.printed ∧
      (runWith surroundings arguments start).file = done.2.file := by
  rcases asks.understood with ⟨group, rest, invoked, isCommand⟩
  rcases done : (perform command).execute surroundings start with ⟨result, later⟩
  rw [Program.execute] at done
  simp only [runWith, invoked, prepared, isCommand, done]
  rcases result with (_ | _ | _) | _ <;> exact ⟨rfl, rfl, rfl⟩

/-- A run whose log cannot be set up fails before its command. -/
theorem runWith_of_unprepared (asks : AskFor arguments command verbose) {failure : Failure}
    (unprepared : prepareLog surroundings start.file verbose = .error failure) :
    (runWith surroundings arguments start).code = 1 ∧
      (runWith surroundings arguments start).printed = start.printed ∧
      (runWith surroundings arguments start).file = start.file := by
  rcases asks.understood with ⟨group, rest, invoked, isCommand⟩
  simp only [runWith, invoked, unprepared, and_self]

end Runs

end Rulebook.CommandLine
