import Rulebook.Json.Display
import Rulebook.Number.Reading
import Rulebook.Settings.Basic
import Rulebook.Text.Case
import Rulebook.Text.Lines

/-!
# Single settings

Each setting has a key of two names, its section and its own. `Settings.lookup?` finds what stands
at a dotted key, which may also be a whole section; `Settings.shown` is how a value is printed,
with all but the ends of the token hidden; `Settings.assign` changes one setting to what a typed
text denotes.
-/

namespace Rulebook

/-- The settings that can be asked for and changed one by one. -/
inductive SettingKey
  | baseUrl
  | token
  | timeout
  | logLevel
  | logFile
  | logToFile
deriving DecidableEq, Repr, Inhabited

namespace SettingKey

/-- All settings. -/
def all : List SettingKey := [baseUrl, token, timeout, logLevel, logFile, logToFile]

/-- The section that holds the setting. -/
def sectionName : SettingKey → String
  | baseUrl | token | timeout => "api"
  | logLevel | logFile | logToFile => "logging"

/-- The name of the setting in its section. -/
def name : SettingKey → String
  | baseUrl => "base_url"
  | token => "token"
  | timeout => "timeout"
  | logLevel => "level"
  | logFile => "file"
  | logToFile => "log_to_file"

/-- The setting of a name in a section. -/
def ofNames? (sectionName name : String) : Option SettingKey :=
  all.find? fun key => key.sectionName == sectionName && key.name == name

end SettingKey

namespace Settings

/-- The value of one setting. -/
def get (settings : Settings) : SettingKey → Json
  | .baseUrl => .str settings.api.baseUrl
  | .token => .str settings.api.token
  | .timeout => .real settings.api.timeout
  | .logLevel => .str settings.log.level
  | .logFile => .str settings.log.file
  | .logToFile => .bool settings.log.toFile

/-- The settings of one section as an object. -/
def sectionObject (settings : Settings) (sectionName : String) : Json :=
  .obj ((SettingKey.all.filter (·.sectionName == sectionName)).map fun key =>
    (key.name, settings.get key))

/-- All settings as an object of sections. -/
def toJson (settings : Settings) : Json :=
  .obj (["api", "logging"].map fun name => (name, settings.sectionObject name))

/-- The value at the end of a path of names, each a field of the object before it. -/
def valueAt? (value : Json) : List String → Option Json
  | [] => some value
  | name :: path =>
      match value with
      | .obj fields =>
          match Json.Fields.get? fields name with
          | some inner => valueAt? inner path
          | none => none
      | _ => none

/-- The names in a key, between its points. -/
def keyNames (key : String) : List String :=
  (Text.splitAt '.' key.toList).map String.ofList

/-- The value that a key names: a setting, a section, or nothing. -/
def lookup? (settings : Settings) (key : String) : Option Json :=
  valueAt? settings.toJson (keyNames key)

/-- A secret with all but its ends hidden; a short one is hidden altogether. -/
def masked (secret : List Char) : List Char :=
  if 8 < secret.length then
    secret.take 4 ++ "...".toList ++ secret.drop (secret.length - 4)
  else "****".toList

/-- The last letters of the key say that its value is a secret. -/
def isSecretKey (key : String) : Bool :=
  "token".toList.reverse.isPrefixOf key.toList.reverse

/-- The value as it is printed under a key; a secret is masked. -/
def shown (key : String) (value : Json) : List Char :=
  match value with
  | .str text =>
      if isSecretKey key && !text.isEmpty then masked text.toList else text.toList
  | other => other.display

/-- Why a setting cannot be changed. -/
inductive AssignFault
  | notTwoNames
  | unknownKey
  /-- The setting is a number, and the text denotes none. -/
  | notNumber
deriving DecidableEq, Repr, Inhabited

/-- The words that switch a setting on; every other word switches it off. -/
def switchWords : List (List Char) := ["true".toList, "1".toList, "yes".toList]

/-- The settings with one of them changed to what a text denotes. -/
def set? (settings : Settings) (key : SettingKey) (text : String) : Option Settings :=
  match key with
  | .baseUrl => some { settings with api := { settings.api with baseUrl := text } }
  | .token => some { settings with api := { settings.api with token := text } }
  | .timeout => (Binary64.ofTyped? text.toList).map fun timeout =>
      { settings with api := { settings.api with timeout := timeout } }
  | .logLevel => some { settings with log := { settings.log with level := text } }
  | .logFile => some { settings with log := { settings.log with file := text } }
  | .logToFile => some { settings with log := { settings.log with
      toFile := switchWords.contains (Text.lower text.toList) } }

/-- The setting that a key of two names stands for. -/
def settingOf (key : String) : Except AssignFault SettingKey :=
  match keyNames key with
  | [sectionName, name] =>
      match SettingKey.ofNames? sectionName name with
      | some setting => .ok setting
      | none => .error .unknownKey
  | _ => .error .notTwoNames

/-- Changes the setting with a dotted key to what a text denotes; the value that it has then comes
with it. -/
def assign (settings : Settings) (key text : String) : Except AssignFault (Settings × Json) :=
  match settingOf key with
  | .error fault => .error fault
  | .ok setting =>
      match settings.set? setting text with
      | none => .error .notNumber
      | some changed => .ok (changed, changed.get setting)

end Settings

end Rulebook
