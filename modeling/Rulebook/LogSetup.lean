import Rulebook.Failure
import Rulebook.Log
import Rulebook.Text.Case

/-!
# Where records go

A setup says from which level on the records of the program are kept, and which outputs show them:
the log file shows everything that is kept, the console only what is heavy enough for it. Records
of other programs appear on the console by their message alone from warnings on.
-/

namespace Rulebook

/-- The name under which the program keeps records; its parts add a point and a name of their
own. -/
def programLogger : String := "zigran_automations"

/-- The levels that may be named in settings. -/
def levelWords : List (String × LogLevel) :=
  [("DEBUG", .debug), ("INFO", .info), ("WARNING", .warning), ("WARN", .warning),
    ("ERROR", .error), ("CRITICAL", .critical), ("FATAL", .critical), ("NOTSET", 0)]

/-- The level of a word in any case. A word that names no level stands for `info`; the names of the
standard line format and of the table of formats stand for those, which are no levels. -/
def levelOfWord (word : String) : Except Failure LogLevel :=
  let upper := String.ofList (Text.upper word.toList)
  match levelWords.lookup upper with
  | some level => .ok level
  | none =>
      if upper = "BASIC_FORMAT" then .error (.unknownLevel "%(levelname)s:%(name)s:%(message)s")
      else if upper = "_STYLES" then .error .formatsForLevel
      else .ok .info

/-- Where records are shown. -/
inductive LogOutput
  | file
  | console
deriving DecidableEq, Repr, Inhabited

/-- Which records are kept, and which outputs show them. -/
structure LogSetup where
  level : LogLevel
  outputs : List (LogOutput × LogLevel)
deriving DecidableEq, Repr, Inhabited

namespace LogSetup

/-- The setup for the level of a word: the file where there is one, and the console from its own
level on. -/
def create (level : String) (withFile : Bool) (console : LogLevel) : Except Failure LogSetup :=
  match levelOfWord level with
  | .error failure => .error failure
  | .ok level => .ok ⟨level,
      (if withFile then [(.file, .debug)] else []) ++ [(.console, console)]⟩

/-- The level that decides what is kept: without a level of its own, that of all programs. -/
def threshold (setup : LogSetup) : LogLevel :=
  if setup.level = 0 then .warning else setup.level

/-- The output shows a record. -/
def shows (setup : LogSetup) (output : LogOutput) (record : LogRecord) : Bool :=
  setup.threshold ≤ record.level &&
    setup.outputs.any fun (other, level) => other == output && level ≤ record.level

/-- The name belongs to the program. -/
def isOwn (logger : String) : Bool :=
  logger == programLogger || (programLogger ++ ".").toList.isPrefixOf logger.toList

/-- What the console shows of a record that a program keeps under a name. -/
def consoleText? (setup : LogSetup) (logger : String) (record : LogRecord) : Option (List Char) :=
  if isOwn logger then
    if setup.shows .console record then some (record.line [':', ' ']) else none
  else if LogLevel.warning ≤ record.level then some record.message
  else none

/-- What the log file shows of a record that a program keeps under a name. -/
def fileText? (setup : LogSetup) (logger : String) (record : LogRecord) : Option (List Char) :=
  if isOwn logger && setup.shows .file record then
    some (logger.toList ++ " | ".toList ++ record.line " | ".toList)
  else none

end LogSetup

end Rulebook
