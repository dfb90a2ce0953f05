import Rulebook.Log
import Rulebook.Settings.Environment
import Rulebook.Text.Utf8
import Rulebook.Toml.Reader
import Rulebook.Toml.Writer

/-!
# The settings file

`Settings.load` reads the settings file: its values lie over the defaults, and where there is no
file, or one that cannot be used, the defaults and the environment decide. `Settings.fileText`
writes the file. What the file says wins over the environment.
-/

namespace Rulebook.Settings

/-- The settings as entries, in sections. -/
def toEntries (settings : Settings) : SettingsTree :=
  [("api", .branch [("base_url", .leaf (.str settings.api.baseUrl)),
      ("token", .leaf (.str settings.api.token)),
      ("timeout", .leaf (.real settings.api.timeout))]),
    ("logging", .branch [("level", .leaf (.str settings.log.level)),
      ("file", .leaf (.str settings.log.file)),
      ("log_to_file", .leaf (.bool settings.log.toFile))])]

/-- The text of the file that keeps the settings. -/
def fileText (settings : Settings) : List Char :=
  Toml.writeSections [
    Toml.writeSection "api" [("base_url", Toml.writeText settings.api.baseUrl.toList),
      ("token", Toml.writeText settings.api.token.toList),
      ("timeout", settings.api.timeout.text)],
    Toml.writeSection "logging" [("level", Toml.writeText settings.log.level.toList),
      ("file", Toml.writeText settings.log.file.toList),
      ("log_to_file", Toml.writeBool settings.log.toFile)]]

/-- The bytes of the file that keeps the settings. -/
def fileBytes (settings : Settings) : List UInt8 :=
  Text.utf8 settings.fileText

/-- The record that there is no file. -/
def missingNote (path : List Char) : LogRecord :=
  ⟨.debug, "Config file not found at ".toList ++ path ++ ", using defaults".toList⟩

/-- The record that the file cannot be read. -/
def unreadableNote (path message : List Char) : LogRecord :=
  ⟨.warning, "Failed to read config at ".toList ++ path ++ ": ".toList ++ message ++
    "; using defaults".toList⟩

/-- The record that settings in the file have values that are none for them. -/
def invalidNote (path : List Char) (count : Nat) : LogRecord :=
  ⟨.warning, "Invalid value in config at ".toList ++ path ++ " (".toList ++ Text.decimal count ++
    " errors); using defaults".toList⟩

/-- The record of a file that was written. -/
def savedNote (path : List Char) : LogRecord :=
  ⟨.debug, "Config saved to ".toList ++ path⟩

/-- The settings that a document makes over the defaults; with a value that is none for its setting,
the defaults. -/
def ofDocument (environment : Environment) (path : List Char) (entries : Toml.Table) :
    Except Failure Settings × List LogRecord :=
  match assemble environment (Tree.mergeEntries Settings.default.toEntries
      (Toml.toEntries entries)) with
  | .ok settings => (.ok settings, [])
  | .error (.invalidSettings places) =>
      (assemble environment [], [invalidNote path places.length])
  | .error failure => (.error failure, [])

/-- Reads the settings from the bytes of the file, if there is one, and the environment, with the
records of reading them. -/
def load (environment : Environment) (path : List Char) (file : Option (List UInt8)) :
    Except Failure Settings × List LogRecord :=
  match file with
  | none => (assemble environment [], [missingNote path])
  | some bytes =>
      match Text.utf8Strict bytes with
      | .error (position, length, fault) =>
          (.error (.notUtf8 (String.ofList
            (Text.utf8FaultMessage bytes position length fault))), [])
      | .ok text =>
          match Toml.read text with
          | .ok entries => ofDocument environment path entries
          | .error fault =>
              match fault.cause with
              | .tooManyDigits count => (.error (.tooManyDigits count), [])
              | _ => (assemble environment [],
                  [unreadableNote path (fault.message (Toml.unifyLineEnds text))])

/-- Where the home directories of users lie. -/
structure Homes where
  /-- The home directory of the user who runs the program. -/
  own : List Char
  /-- The home directories of users by name. -/
  named : List (List Char × List Char) := []
deriving DecidableEq, Repr, Inhabited

/-- The home directory of a user, where the empty name is that of the user who runs the program. -/
def Homes.find (homes : Homes) (user : List Char) : Except Failure (List Char) :=
  if user.isEmpty then .ok homes.own
  else if user.contains '\x00' then .error .zeroInPath
  else match homes.named.lookup user with
    | some home => .ok home
    | none => .error .unknownHome

/-- The path of the log file: without empty and single-point parts, and with the home directory of
a user for a tilde and the name of the user in front. -/
def logPath (homes : Homes) (settings : Settings) : Except Failure (List Char) :=
  let file := settings.log.file.toList
  let parts := (Text.splitAt '/' file).filter fun part => part != [] && part != ['.']
  let root :=
    match file with
    | '/' :: '/' :: '/' :: _ => ['/']
    | '/' :: '/' :: _ => ['/', '/']
    | '/' :: _ => ['/']
    | _ => []
  let relative := Text.join ['/']
  match root, parts with
  | [], ('~' :: user) :: rest => (homes.find user).map fun home => relative (home :: rest)
  | [], [] => .ok ['.']
  | root, parts => .ok (root ++ relative parts)

end Rulebook.Settings
