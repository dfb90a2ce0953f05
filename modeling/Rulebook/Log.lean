import Rulebook.Text.Digit

/-!
# Log records

What happens is recorded with a level; a greater level weighs more. A session keeps its records in
order, and it is up to the listener which of them are shown.
-/

namespace Rulebook

/-- The weight of a record. -/
abbrev LogLevel := Int

namespace LogLevel

/-- Details of the work. -/
def debug : LogLevel := 10

/-- A step that was taken. -/
def info : LogLevel := 20

/-- Something that did not go as it should. -/
def warning : LogLevel := 30

/-- A failure. -/
def error : LogLevel := 40

/-- A failure that ends the work. -/
def critical : LogLevel := 50

/-- The levels that have a name, the heaviest first. -/
def named : List (LogLevel × String) :=
  [(critical, "CRITICAL"), (error, "ERROR"), (warning, "WARNING"), (info, "INFO"),
    (debug, "DEBUG"), (0, "NOTSET")]

/-- How a record writes the level. -/
def name (level : LogLevel) : List Char :=
  match named.lookup level with
  | some name => name.toList
  | none => "Level ".toList ++ Text.signedDecimal level

end LogLevel

/-- What the program notes about one step. -/
structure LogRecord where
  /-- The weight of the record. -/
  level : LogLevel
  message : List Char
deriving DecidableEq, Repr, Inhabited

/-- The record as a line: the name of its level and what happened. -/
def LogRecord.line (record : LogRecord) (gap : List Char) : List Char :=
  record.level.name ++ gap ++ record.message

end Rulebook
