import Rulebook.Failure
import Rulebook.Number.Reading
import Rulebook.Settings.Basic
import Rulebook.Settings.Tree
import Rulebook.Toml.Basic

/-!
# Settings from trees

`Settings.ofEntries` turns a tree of plain values into settings. A text setting must be a text; a
number may also be a whole number, a truth value or a text that denotes a number; a switch may also
be one of the words or numbers for yes and no. What is missing has its default, further names in a
section do not matter, and further sections are faults. All faults are reported by their places.
-/

namespace Rulebook

/-- A plain value as a source of settings gives it. Lists, dates and `null` are no settings. -/
inductive PlainValue
  | bool (value : Bool)
  | int (value : Int)
  | real (value : Binary64)
  | str (value : String)
  | other
deriving DecidableEq, Repr, Inhabited

/-- Named trees of plain values. -/
abbrev SettingsTree := Tree.Entries PlainValue

mutual

/-- A JSON value as a tree: objects are branches. -/
def Json.toTree : Json → Tree PlainValue
  | bool value => .leaf (.bool value)
  | int value => .leaf (.int value)
  | real value => .leaf (.real value)
  | str value => .leaf (.str value)
  | null | arr _ => .leaf .other
  | obj fields => .branch (Json.toEntries fields)
termination_by structural value => value

/-- The fields of an object as named trees. -/
def Json.toEntries : List (String × Json) → List (String × Tree PlainValue)
  | [] => []
  | (name, value) :: rest => (name, value.toTree) :: Json.toEntries rest
termination_by structural fields => fields

end

mutual

/-- A TOML value as a tree: tables are branches. -/
def Toml.toTree : Toml → Tree PlainValue
  | bool value => .leaf (.bool value)
  | int value => .leaf (.int value)
  | real value => .leaf (.real value)
  | str value => .leaf (.str value)
  | moment | arr _ => .leaf .other
  | table entries => .branch (Toml.toEntries entries)
termination_by structural value => value

/-- The entries of a table as named trees. -/
def Toml.toEntries : List (String × Toml) → List (String × Tree PlainValue)
  | [] => []
  | (name, value) :: rest => (name, value.toTree) :: Toml.toEntries rest
termination_by structural entries => entries

end

namespace PlainValue

/-- The number that a text denotes: as written, without white space around it, or else without its
single underscores. -/
def realOfText? (text : List Char) : Option Binary64 :=
  match Binary64.realBy? Text.plainDigits (Text.trimSpacing text) with
  | some number => some number
  | none =>
      if text.head? = some '_' ∨ text.getLast? = some '_' ∨ Text.occursIn ['_', '_'] text then none
      else Binary64.realBy? Text.plainDigits (text.filter (· != '_'))

/-- The words that read as true. -/
def yesWords : List String := ["1", "on", "t", "true", "y", "yes"]

/-- The words that read as false. -/
def noWords : List String := ["0", "off", "f", "false", "n", "no"]

/-- The text that a value stands for. -/
def toText? : PlainValue → Option String
  | str value => some value
  | _ => none

/-- The value as a number. A whole number beyond all binary numbers is none. -/
def toReal? : PlainValue → Option Binary64
  | real value => some value
  | int value => some (Binary64.ofInt value) |>.filter Binary64.isFinite
  | bool value => some (Binary64.ofInt (if value then 1 else 0))
  | str value => realOfText? value.toList
  | other => none

/-- The truth value that a value stands for. -/
def toSwitch? : PlainValue → Option Bool
  | bool value => some value
  | int 0 => some false
  | int 1 => some true
  | int _ => none
  | real value =>
      match value.toInt? with
      | some 0 => some false
      | some 1 => some true
      | _ => none
  | str value =>
      let word := String.ofList (value.toList.map Char.toLower)
      if yesWords.contains word then some true
      else if noWords.contains word then some false
      else none
  | other => none

end PlainValue

namespace Settings

/-- Reads one setting of a section: its value, or the place of a fault. A setting that is missing
has its default. -/
def readSetting {α : Type} (read : PlainValue → Option α) (sectionName name : String)
    (default : α) (entries : SettingsTree) : List String × α :=
  match entries.lookup name with
  | none => ([], default)
  | some (.leaf value) =>
      match read value with
      | some setting => ([], setting)
      | none => ([sectionName ++ "." ++ name], default)
  | some (.branch _) => ([sectionName ++ "." ++ name], default)

/-- The settings of the backend, and the places of those that cannot be read. -/
def readApi : Option (Tree PlainValue) → List String × ApiSettings
  | none => ([], .default)
  | some (.leaf _) => (["api"], .default)
  | some (.branch entries) =>
      let default := ApiSettings.default
      let baseUrl := readSetting PlainValue.toText? "api" "base_url" default.baseUrl entries
      let token := readSetting PlainValue.toText? "api" "token" default.token entries
      let timeout := readSetting PlainValue.toReal? "api" "timeout" default.timeout entries
      (baseUrl.1 ++ token.1 ++ timeout.1, ⟨baseUrl.2, token.2, timeout.2⟩)

/-- The settings of the log, and the places of those that cannot be read. -/
def readLog : Option (Tree PlainValue) → List String × LogSettings
  | none => ([], .default)
  | some (.leaf _) => (["logging"], .default)
  | some (.branch entries) =>
      let default := LogSettings.default
      let level := readSetting PlainValue.toText? "logging" "level" default.level entries
      let file := readSetting PlainValue.toText? "logging" "file" default.file entries
      let toFile := readSetting PlainValue.toSwitch? "logging" "log_to_file" default.toFile entries
      (level.1 ++ file.1 ++ toFile.1, ⟨level.2, file.2, toFile.2⟩)

/-- The names of the sections. -/
def sectionNames : List String := ["api", "logging"]

/-- The settings that named trees denote, or the places of all faults. -/
def ofEntries (entries : SettingsTree) : Except Failure Settings :=
  let api := readApi (entries.lookup "api")
  let log := readLog (entries.lookup "logging")
  let unknown := (entries.map Prod.fst).filter fun name => !sectionNames.contains name
  match api.1 ++ log.1 ++ unknown with
  | [] => .ok ⟨api.2, log.2⟩
  | places => .error (.invalidSettings places)

end Settings

end Rulebook
