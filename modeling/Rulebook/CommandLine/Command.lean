import Rulebook.CommandLine.Arguments
import Rulebook.Service.Providers

/-!
# Commands

What the program can be told to do. Commands are grouped; the name of the group comes first, then
the name of the command, then its arguments. Options that concern all commands stand in front.
-/

namespace Rulebook.CommandLine

/-- What the program is told to do. -/
inductive Command
  | version
  | listRules (status trigger search : String)
  | showRule (id : String)
  | setActive (id : String) (active : Bool)
  | removeRule (id : String) (confirmed : Bool)
  | execute (event lead payload : String)
  | listActions
  | listTemplates
  | listProviders
  | operate (operation : ProviderOperation) (provider : String)
  | getSetting (key : String)
  | setSetting (key value : String)
deriving DecidableEq, Repr

/-- The options of a command that has none. -/
def noOptions : OptionNames := ⟨[], [], []⟩

/-- The arguments of a command without options, if they contain none. -/
def plainArguments? (arguments : List String) : Option (List String) :=
  (readArguments? noOptions true arguments).map Arguments.positional

/-- The command of the group for rules that a name and its arguments denote. -/
def ruleCommand? (name : String) (arguments : List String) : Option Command :=
  match name with
  | "list" =>
      match readArguments? ⟨["--status", "--trigger", "--search"], [], []⟩ true arguments with
      | some read =>
          if read.positional.isEmpty then
            some (.listRules ((read.value? "--status").getD "all")
              ((read.value? "--trigger").getD "all") ((read.value? "--search").getD ""))
          else none
      | none => none
  | "remove" =>
      match readArguments? ⟨[], ["--yes"], [('y', "--yes")]⟩ true arguments with
      | some read =>
          match read.positional with
          | [id] => some (.removeRule id (read.isOn "--yes"))
          | _ => none
      | none => none
  | "execute" =>
      match readArguments? ⟨["--lead-id", "--payload"], [], []⟩ true arguments with
      | some read =>
          match read.positional with
          | [event] => some (.execute event ((read.value? "--lead-id").getD "")
              ((read.value? "--payload").getD ""))
          | _ => none
      | none => none
  | _ =>
      match name, plainArguments? arguments with
      | "show", some [id] => some (.showRule id)
      | "enable", some [id] => some (.setActive id true)
      | "disable", some [id] => some (.setActive id false)
      | "actions", some [] => some .listActions
      | "templates", some [] => some .listTemplates
      | _, _ => none

/-- The command of the group for providers that a name and its arguments denote. -/
def providerCommand? (name : String) (arguments : List String) : Option Command :=
  match plainArguments? arguments with
  | some [] => if name = "list" then some .listProviders else none
  | some [provider] =>
      (ProviderOperation.all.find? (·.name == name)).map (Command.operate · provider)
  | _ => none

/-- The command of the group for settings that a name and its arguments denote. -/
def settingCommand? (name : String) (arguments : List String) : Option Command :=
  match name, plainArguments? arguments with
  | "get", some [key] => some (.getSetting key)
  | "set", some [key, value] => some (.setSetting key value)
  | _, _ => none

/-- The groups of commands, and the one command outside a group. -/
def groupNames : List String := ["version", "automations", "integrations", "config"]

/-- The command that the name of a group and the arguments after it denote. A group that is a
command itself takes no further name. -/
def groupCommand? (group : String) (arguments : List String) : Option Command :=
  match group with
  | "version" => match plainArguments? arguments with
      | some [] => some .version
      | _ => none
  | _ =>
      match readArguments? noOptions false arguments with
      | some ⟨_, _, name :: rest⟩ =>
          match group with
          | "automations" => ruleCommand? name rest
          | "integrations" => providerCommand? name rest
          | "config" => settingCommand? name rest
          | _ => none
      | _ => none

/-- What stands in front of a command: whether the log is to show details, and the group. -/
structure Invocation where
  /-- The log shows details. -/
  verbose : Bool
  group : String
  /-- The arguments after the name of the group. -/
  arguments : List String
deriving DecidableEq, Repr

/-- Reads the arguments of the program up to the name of the group. -/
def invocation? (arguments : List String) : Option Invocation :=
  match readArguments? ⟨[], ["--verbose"], [('v', "--verbose")]⟩ false arguments with
  | some ⟨_, switches, group :: rest⟩ =>
      if groupNames.contains group then some ⟨switches.contains "--verbose", group, rest⟩ else none
  | _ => none

end Rulebook.CommandLine
