import Rulebook.CommandLine.Program

/-!
# Command line

The outer layer: it reads the environment, the settings file and the input, runs the program, and
writes what it printed and the settings file. This layer has no connection to a network, so every
request goes unanswered.
-/

namespace Rulebook.CommandLine

/-- The variables in a block of entries that each end in a zero byte. The name of a variable ends at
the first equals sign. -/
def bindingsOf (block : List UInt8) : Settings.Environment :=
  (block.splitOn 0).filterMap fun entry =>
    (String.fromUTF8? (ByteArray.mk entry.toArray)).bind fun text =>
      match Text.cutAt '=' text.toList with
      | (name, some value) => some (String.ofList name, String.ofList value)
      | (_, none) => none

/-- The bytes of a file, if there is one that can be read. -/
def readBytes? (path : String) : IO (Option (List UInt8)) := do
  try
    return some (← IO.FS.readBinFile path).toList
  catch _ => return none

/-- The names under which the settings and their sections are usually given. -/
def variableNames : List String :=
  ["ZIGRAN_API", "ZIGRAN_LOGGING"] ++ SettingKey.all.map fun key =>
    "ZIGRAN_" ++ key.sectionName.toUpper ++ "__" ++ key.name.toUpper

/-- The variables that are set, whatever the case of their names. Where the system does not list
them, only the usual names are asked for. -/
def readEnvironment : IO Settings.Environment := do
  match ← readBytes? "/proc/self/environ" with
  | some block => return bindingsOf block
  | none =>
      let found ← variableNames.mapM fun name => do
        return (← IO.getEnv name).map fun value => (name, value)
      return found.filterMap id

/-- The backend cannot be reached. -/
def noConnection (_ : Request) (state : Unit) : Reply × Unit :=
  (.unreachable "All connection attempts failed" "ConnectError", state)

/-- The home directories of users: the sixth field of the lines of the file of accounts. -/
def readHomes (own : String) : IO Settings.Homes := do
  let lines ← try IO.FS.lines "/etc/passwd" catch _ => pure #[]
  let named := lines.toList.filterMap fun line =>
    match Text.splitAt ':' line.toList with
    | name :: _ :: _ :: _ :: _ :: home :: _ => some (name, home)
    | _ => none
  return ⟨own.toList, named⟩

/-- Runs the program, asking for further input while a question is not answered. What the run
printed before `seen` has been shown. -/
partial def converse (run : List Char → Outcome Unit) (input : List Char) (seen : Nat) :
    IO (Outcome Unit) := do
  let outcome := run input
  let output ← IO.getStdout
  output.putStr (String.ofList (outcome.printed.drop seen))
  output.flush
  if !outcome.unanswered then return outcome
  let line ← (← IO.getStdin).getLine
  if line.isEmpty then return outcome
  converse run (input ++ line.toList) (outcome.printed.length + line.length)

/-- Writes the settings file where nobody else can read it. -/
def writeSettings (directory path : String) (bytes : List UInt8) : IO Unit := do
  IO.FS.createDirAll directory
  IO.FS.writeBinFile path (ByteArray.mk bytes.toArray)
  IO.setAccessRights path ⟨⟨true, true, false⟩, ⟨false, false, false⟩, ⟨false, false, false⟩⟩

end Rulebook.CommandLine

open Rulebook.CommandLine in
/-- Runs the program with the arguments of the process. -/
def main (arguments : List String) : IO UInt32 := do
  let home := (← IO.getEnv "HOME").getD ""
  let directory := home ++ "/.config/zigran"
  let path := directory ++ "/config.toml"
  let surroundings : Surroundings Unit :=
    ⟨← readEnvironment, path.toList, ← readHomes home, noConnection⟩
  let file ← readBytes? path
  let run (input : List Char) : Outcome Unit :=
    runWith surroundings arguments ⟨.start (), file, [], input⟩
  let outcome ← converse run [] 0
  for record in outcome.shown do
    IO.eprintln (String.ofList (record.line [':', ' ']))
  match outcome.failure with
  | some failure => IO.eprintln (String.ofList failure.message)
  | none => pure ()
  match outcome.file with
  | some bytes => if outcome.file ≠ file then writeSettings directory path bytes
  | none => pure ()
  return UInt32.ofNat outcome.code
