import Rulebook.Json.Parser
import Rulebook.Settings.Reading
import Rulebook.Text.Case

/-!
# Settings from the environment

A variable sets one value: its name is the name of the program, the section and the setting, with
two underscores before the setting. A section as a whole may also be given as a JSON object; single
variables then have the last word. The case of names does not matter. Variables that belong to no
section are ignored.
-/

namespace Rulebook.Settings

/-- The variables of the environment, each with its text. -/
abbrev Environment := List (String × String)

/-- What the names of all variables of the program begin with, in lower case. -/
def variableStart : String := "zigran_"

/-- The name in lower case, as names of variables are compared. -/
def lowerName (name : String) : String :=
  String.ofList (Text.lower name.toList)

/-- Binds a name: in its place if it is bound, at the end if it is new. -/
def bindVariable (bindings : Environment) (name value : String) : Environment :=
  match bindings with
  | [] => [(name, value)]
  | (other, old) :: rest =>
      if other = name then (name, value) :: rest else (other, old) :: bindVariable rest name value

/-- The variables under their names in lower case; of several with one name the last one counts. -/
def lowerNames (environment : Environment) : Environment :=
  environment.foldl (fun bindings (name, value) =>
    bindVariable bindings (lowerName name) value) []

/-- The parts of a name between double underscores; `part` is the one begun, last letter first. -/
def nameParts : (part : List Char) → List Char → List (List Char)
  | part, [] => [part.reverse]
  | part, '_' :: '_' :: rest => part.reverse :: nameParts [] rest
  | part, character :: rest => nameParts (character :: part) rest

/-- The path of names that a variable sets in a section, if it belongs to the section. -/
def variablePath? (sectionName name : String) : Option (List String) :=
  let start := (variableStart ++ sectionName ++ "__").toList
  if start.isPrefixOf name.toList then
    some ((nameParts [] (name.toList.drop start.length)).map String.ofList)
  else none

/-- The values of a section that have a variable each. -/
def singleVariables (sectionName : String) (bindings : Environment) : SettingsTree :=
  bindings.foldl (fun entries (name, value) =>
    match variablePath? sectionName name with
    | some path => Tree.insertAt (.str value) (path.getLast?.getD "") path.dropLast entries
    | none => entries) []

/-- The names of the settings in a section. -/
def settingNames (sectionName : String) : List String :=
  if sectionName = "api" then ["base_url", "token", "timeout"] else ["level", "file", "log_to_file"]

/-- The entries of a section under the names of its settings, whatever the case of their names. -/
def matchNames (sectionName : String) (entries : SettingsTree) : SettingsTree :=
  entries.foldl (fun matched (name, tree) =>
    let known := (settingNames sectionName).contains (lowerName name)
    Tree.setEntry (if known then lowerName name else name) tree matched) []

/-- What the environment says about a section: the JSON text of its own variable, with the single
values put over it. -/
def sectionOf (sectionName : String) (bindings : Environment) :
    Except Failure (Option (Tree PlainValue)) :=
  let single := singleVariables sectionName bindings
  match bindings.lookup (variableStart ++ sectionName) with
  | none =>
      .ok (if single.isEmpty then none else some (.branch (matchNames sectionName single)))
  | some text =>
      match Json.parse text.toList with
      | .error _ => .error .environmentUnreadable
      | .ok .null => .ok none
      | .ok (.obj fields) => .ok (some (.branch (matchNames sectionName
          (Tree.mergeEntries (Json.toEntries fields) single))))
      | .ok value => .ok (some value.toTree)

/-- What the environment says about the settings. -/
def ofEnvironment (environment : Environment) : Except Failure SettingsTree :=
  let bindings := lowerNames environment
  match sectionOf "api" bindings with
  | .error failure => .error failure
  | .ok api =>
      match sectionOf "logging" bindings with
      | .error failure => .error failure
      | .ok log =>
          .ok ((api.toList.map fun tree => ("api", tree)) ++
            log.toList.map fun tree => ("logging", tree))

/-- What is given for a section: the tree under its name, or else under its name in another
case. -/
def givenSection? (given : SettingsTree) (name : String) : Option (Tree PlainValue) :=
  (given.lookup name).or ((given.find? fun (other, _) => lowerName other == name).map Prod.snd)

/-- Given entries with their sections under the names in lower case, before all other entries. -/
def nameSections (given : SettingsTree) : SettingsTree :=
  (sectionNames.filterMap fun name => (givenSection? given name).map fun tree => (name, tree)) ++
    given.filter fun (name, _) => !sectionNames.contains (lowerName name)

/-- The settings that the environment and the given entries make; the environment comes first. -/
def assemble (environment : Environment) (given : SettingsTree) : Except Failure Settings :=
  match ofEnvironment environment with
  | .error failure => .error failure
  | .ok bindings => ofEntries (Tree.mergeEntries bindings (nameSections given))

end Rulebook.Settings
