import Rulebook.CommandLine.Command
import Rulebook.Console.Question
import Rulebook.Console.Table
import Rulebook.LogSetup
import Rulebook.Query
import Rulebook.Service.Rules
import Rulebook.Settings.Access
import Rulebook.Settings.Storage
import Rulebook.Template

/-!
# The program

A run reads its arguments, loads the settings, carries out one command, and ends with an exit code:
0 after success, 1 after a failure, and 2 for arguments that it does not understand. A failure that
belongs to the work is printed; any other failure ends the run and is left to the caller. A run
changes the state of the backend and, where a setting is changed, the settings file.
-/

namespace Rulebook.CommandLine

/-- Where a program runs. -/
structure Surroundings (σ : Type) where
  environment : Settings.Environment
  settingsPath : List Char
  homes : Settings.Homes
  answer : Request → σ → Reply × σ

/-- The state of a run of the program. -/
structure Run (σ : Type) where
  session : Session σ
  /-- The bytes of the settings file, if there is one. -/
  file : Option (List UInt8)
  printed : List Char
  /-- What can still be read from the input. -/
  input : List Char

/-- Why a run ends before its command is done. -/
inductive Stop
  | exit (code : Nat)
  | inputEnded
  /-- The run ends with a failure that is not its own to report. -/
  | failed (failure : Failure)
deriving DecidableEq, Repr, Inhabited

/-- A part of a run. -/
abbrev Program (σ : Type) := ReaderT (Surroundings σ) (ExceptT Stop (StateM (Run σ)))

/-- The version that the program reports. -/
def versionText : String := "0.1.0"

namespace Program

variable {σ α : Type}

/-- Prints a text as it is, without looking for markup in it. -/
def write (text : List Char) : Program σ Unit :=
  modify fun run => { run with printed := run.printed ++ text }

/-- The value of a result; its failure ends the run. -/
def orFail (result : Except Failure α) : Program σ α :=
  match result with
  | .ok value => pure value
  | .error failure => throw (.failed failure)

/-- Prints a text with tags on lines of its own. -/
def say (text : List Char) : Program σ Unit := do
  write (← orFail (Console.printed text))

/-- Prints a line in a style. -/
def sayIn (style : String) (text : List Char) : Program σ Unit :=
  say ('[' :: style.toList ++ ']' :: text ++ '[' :: '/' :: style.toList ++ [']'])

/-- Prints what went wrong and ends the run. -/
def reject (text : List Char) : Program σ α := do
  sayIn "red" text
  throw (.exit 1)

/-- Prints a value as indented JSON. -/
def showJson (value : Json) : Program σ Unit :=
  write (value.print Json.pretty ++ ['\n'])

/-- Prints a table. -/
def showTable (table : Console.Table) : Program σ Unit := do
  write (← orFail table.render)

/-- Loads the settings from the environment and the settings file, and logs what is noted on the
way. -/
def loadSettings : Program σ Settings := do
  let surroundings ← read
  let run ← get
  let (result, log) :=
    Settings.load surroundings.environment surroundings.settingsPath run.file
  set { run with session := { run.session with log := run.session.log ++ log } }
  orFail result

/-- Carries out an operation on the backend. A failure of the work is printed. -/
def withClient (operation : Client σ → Session σ → Except Failure α × Session σ) :
    Program σ α := do
  let settings ← loadSettings
  let surroundings ← read
  let client ← orFail (Client.create settings.api surroundings.answer)
  let run ← get
  let (result, session) := operation client
    (run.session.record .debug (Client.creationNote settings.api))
  set { run with session := session }
  match result with
  | .ok value => pure value
  | .error failure =>
      if failure.isReported then reject failure.message else throw (.failed failure)

/-- Prints what an operation came to. -/
def showResult (result : Json) : Program σ Unit :=
  if result = .null then sayIn "green" "Done.".toList else showJson result

end Program

open Program

variable {σ : Type}

/-- A dash where there is no text. -/
def orDash (text : List Char) : List Char :=
  if text.isEmpty then ['—'] else text

/-- Texts in a row, with commas between them. -/
def commaList (texts : List (List Char)) : List Char :=
  Text.join [',', ' '] texts

/-- What the actions of a rule are called. -/
def actionLabels (actions : List Action) : List Char :=
  commaList (actions.map fun action => Catalog.labelOf action.type)

/-- The row of a rule in the table of rules. -/
def ruleRow (rule : Rule) : List (List Char) :=
  [(rule.id.orElse (.str "—")).display, rule.name.display, Catalog.triggerLabelOf rule.trigger.type,
    orDash (actionLabels rule.actions),
    (if rule.active.isTruthy then "[green]yes[/green]" else "[dim]no[/dim]").toList]

/-- Shows the rules that pass the filters, with their numbers below. -/
def listRules (status trigger search : String) : Program σ Unit := do
  let rules ← withClient Client.listRules
  match filterRules rules (.str status) (.str trigger) (.str search) with
  | .error failure => reject failure.message
  | .ok visible =>
      let stats := summarize rules
      say []
      showTable ⟨"Automation Rules", ["ID", "Name", "Trigger", "Actions", "Active"],
        visible.map ruleRow⟩
      sayIn "dim" (Text.decimal stats.total ++ " total, ".toList ++ Text.decimal stats.active ++
        " active, ".toList ++ Text.decimal stats.inactive ++ " inactive".toList)
      say []

/-- The row of an action in the table of the actions of a rule. -/
def actionRow (action : Action) (index : Nat) : List (List Char) :=
  [Text.decimal (index + 1), Catalog.labelOf action.type, action.params.print Json.spacedAscii]

/-- Shows one rule in full. -/
def showRule (id : String) : Program σ Unit := do
  match ← withClient fun client => client.findRule (.str id) with
  | none => reject ("Automation not found: ".toList ++ id.toList)
  | some rule =>
      let state :=
        if rule.active.isTruthy then "[green]active[/green]" else "[dim]inactive[/dim]"
      say ("\n[bold]".toList ++ rule.name.display ++ "[/bold] (".toList ++ state.toList ++ [')'])
      say ("Trigger: ".toList ++ Catalog.triggerLabelOf rule.trigger.type)
      if rule.trigger.params ≠ .null then showJson rule.trigger.params
      if rule.trigger.conditions.isTruthy then
        say "Conditions:".toList
        showJson rule.trigger.conditions
      showTable ⟨"Actions", ["#", "Action", "Params"],
        rule.actions.zipIdx.map fun (action, index) => actionRow action index⟩

/-- Asks whether to go on, and ends the run if not. -/
def confirm (question : List Char) : Program σ Unit := do
  let run ← get
  let (shown, answer, rest) :=
    Console.ask (Console.questionText question) (run.input.length + 1) run.input
  set { run with printed := run.printed ++ shown, input := rest }
  match answer with
  | some true => pure ()
  | some false => throw (.exit 1)
  | none => throw .inputEnded

/-- Removes a rule, after asking for confirmation unless this has been given. -/
def removeRule (id : String) (confirmed : Bool) : Program σ Unit := do
  if !confirmed then confirm ("Remove automation ".toList ++ id.toList ++ ['?'])
  showResult (← withClient fun client => client.removeRule (.str id))

/-- Fires the rules for a typed event. -/
def execute (event lead payload : String) : Program σ Unit := do
  let result ← withClient fun client =>
    client.executeTyped (.str event) (.str lead) (.str payload)
  sayIn "green" "Execution triggered.".toList
  if result ≠ .null then showResult result

/-- Shows the catalog of actions. -/
def listActions : Program σ Unit :=
  let names (params : List Param) : List Char :=
    orDash (commaList (params.map fun param => param.name.toList))
  showTable ⟨"Action Types", ["Kind", "Label", "Required", "Optional"],
    Catalog.actionTypes.map fun entry =>
      [entry.kind.toList, entry.label.toList, names (entry.params.filter (·.required)),
        names (entry.params.filter (!·.required))]⟩

/-- Shows the catalog of templates. -/
def listTemplates : Program σ Unit :=
  showTable ⟨"Flow Templates", ["Key", "Label", "Trigger", "Actions"],
    Template.all.map fun template =>
      [template.key.toList, template.label.toList,
        Catalog.triggerLabelOf (.str template.triggerType), actionLabels template.actions]⟩

/-- The row of a provider, which can be any value that the backend reports. -/
def providerRow (provider : Json) : List (List Char) :=
  if provider.isObject then
    let key := (provider.field "key").orElse
      ((provider.field "provider").orElse ((provider.field "id").orElse (.str "—")))
    [key.display, provider.print Json.spacedAscii]
  else [['—'], provider.display]

/-- Shows the providers that the backend reports. -/
def listProviders : Program σ Unit := do
  match ← withClient Client.listProviders with
  | [] => sayIn "dim" "No integrations reported by the backend.".toList
  | providers => showTable ⟨"Integrations", ["Key", "Details"], providers.map providerRow⟩

/-- Shows what stands at a key of the settings. -/
def getSetting (key : String) : Program σ Unit := do
  match (← loadSettings).lookup? key with
  | none => reject ("Key not found: ".toList ++ key.toList)
  | some value => say (Settings.shown key value)

/-- The wording of a fault in changing a setting. -/
def assignFaultText (key : String) : Settings.AssignFault → List Char
  | .notTwoNames => "Key must be in 'section.field' format (e.g., 'api.token').".toList
  | .unknownKey => "Unknown config key: ".toList ++ key.toList
  | .notNumber => "Expected a number for ".toList ++ key.toList

/-- Changes a setting and writes the settings file. -/
def setSetting (key value : String) : Program σ Unit := do
  match (← loadSettings).assign key value with
  | .error fault => reject (assignFaultText key fault)
  | .ok (settings, assigned) =>
      let path := (← read).settingsPath
      modify fun run => { run with
        file := some settings.fileBytes
        session := { run.session with log := run.session.log ++ [Settings.savedNote path] } }
      sayIn "green" (key.toList ++ " = ".toList ++ assigned.display)

/-- What a command does. -/
def perform : Command → Program σ Unit
  | .version => say versionText.toList
  | .listRules status trigger search => listRules status trigger search
  | .showRule id => showRule id
  | .setActive id active => do
      showResult (← withClient fun client =>
        client.updateRule (.str id) [("active", .bool active)])
  | .removeRule id confirmed => removeRule id confirmed
  | .execute event lead payload => execute event lead payload
  | .listActions => listActions
  | .listTemplates => listTemplates
  | .listProviders => listProviders
  | .operate operation provider => do
      showResult (← withClient fun client => client.operate operation (.str provider))
  | .getSetting key => getSetting key
  | .setSetting key value => setSetting key value

/-- The path is that of a directory and cannot be the log file. Of the file system no more is known
than that the home directory is one, and what ends like one: it is assumed that at every other path
a file can be opened, in a directory that is there or can be made, and that this is not the file of
the settings. -/
def isDirectoryPath (home path : List Char) : Bool :=
  path == home || match (Text.splitAt '/' path).getLast? with
    | none | some [] | some ['.'] | some ['.', '.'] => true
    | some _ => false

/-- Sets up the log before a command: with details on demand, otherwise from warnings on. Whether
the log file can be opened is read off its path. -/
def prepareLog (surroundings : Surroundings σ) (file : Option (List UInt8)) (verbose : Bool) :
    Except Failure LogSetup :=
  match (Settings.load surroundings.environment surroundings.settingsPath file).1 with
  | .error failure => .error failure
  | .ok settings =>
      match settings.logPath surroundings.homes with
      | .error failure => .error failure
      | .ok path =>
          match LogSetup.create (if verbose then "DEBUG" else settings.log.level)
              settings.log.toFile (if verbose then .debug else .warning) with
          | .error failure => .error failure
          | .ok setup =>
              if !settings.log.toFile then .ok setup
              else if path.contains '\x00' then .error .zeroInPath
              else if isDirectoryPath surroundings.homes.own path then
                .error (.isDirectory (String.ofList path))
              else .ok setup

/-- What a run comes to. -/
structure Outcome (σ : Type) where
  code : Nat
  /-- The failure that ended the run and was not reported. -/
  failure : Option Failure
  /-- The run ended because the input did, before a question was answered. -/
  unanswered : Bool
  printed : List Char
  shown : List LogRecord
  session : Session σ
  /-- The settings file after the run. -/
  file : Option (List UInt8)

/-- Runs the program with its arguments: the log is set up before the command is looked for, and a
run that gets no further than this changes nothing. -/
def runWith (surroundings : Surroundings σ) (arguments : List String) (start : Run σ) :
    Outcome σ :=
  let ended (code : Nat) (failure : Option Failure) : Outcome σ :=
    ⟨code, failure, false, start.printed, [], start.session, start.file⟩
  match invocation? arguments with
  | none => ended 2 none
  | some invocation =>
      match prepareLog surroundings start.file invocation.verbose with
      | .error failure => ended 1 (some failure)
      | .ok setup =>
          match groupCommand? invocation.group invocation.arguments with
          | none => ended 2 none
          | some command =>
              let (result, run) := (perform command).run surroundings |>.run.run start
              let ended (code : Nat) (failure : Option Failure) (unanswered : Bool) : Outcome σ :=
                ⟨code, failure, unanswered, run.printed,
                  run.session.log.filter (setup.shows .console), run.session, run.file⟩
              match result with
              | .ok () => ended 0 none false
              | .error (.exit code) => ended code none false
              | .error .inputEnded => ended 1 none true
              | .error (.failed failure) => ended 1 (some failure) false

end Rulebook.CommandLine
