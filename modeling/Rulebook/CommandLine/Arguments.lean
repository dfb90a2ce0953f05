import Rulebook.Text.Lines

/-!
# Arguments

The arguments of a command are options and positional arguments. An option with a value takes it
from the next argument or after an equals sign; switches of one letter may stand together; after a
double hyphen all arguments are positional. Anything else that begins with a hyphen is refused.
-/

namespace Rulebook.CommandLine

/-- The options that a command has. -/
structure OptionNames where
  /-- The options with a value. -/
  valued : List String
  switches : List String
  /-- The switches of one letter, with the long names that they stand for. -/
  letters : List (Char × String)

/-- The arguments of a command, sorted by how they are written. -/
structure Arguments where
  values : List (String × String)
  switches : List String
  positional : List String
deriving Inhabited

namespace Arguments

/-- No arguments. -/
def none : Arguments := ⟨[], [], []⟩

/-- The value of an option; where it is given more than once, the last one counts. -/
def value? (arguments : Arguments) (name : String) : Option String :=
  arguments.values.reverse.lookup name

/-- The switch is on. -/
def isOn (arguments : Arguments) (name : String) : Bool :=
  arguments.switches.contains name

/-- The arguments with one more option that has a value. -/
def withValue (arguments : Arguments) (name value : String) : Arguments :=
  { arguments with values := (name, value) :: arguments.values }

/-- The arguments with further switches turned on. -/
def withSwitches (arguments : Arguments) (names : List String) : Arguments :=
  { arguments with switches := names ++ arguments.switches }

/-- The arguments with one more in front that is no option. -/
def withPositional (arguments : Arguments) (value : String) : Arguments :=
  { arguments with positional := value :: arguments.positional }

end Arguments

/-- An argument that begins with a hyphen and is more than that. -/
def isOption (argument : String) : Bool :=
  match argument.toList with
  | '-' :: _ :: _ => true
  | _ => false

/-- The long names of the switches that letters stand for. -/
def lettersOf? (names : OptionNames) (letters : List Char) : Option (List String) :=
  letters.mapM fun letter => names.letters.lookup letter

/-- What an argument that begins with a hyphen asks for. -/
inductive OptionUse
  | needsValue (name : String)
  | hasValue (name value : String)
  | switchesOn (names : List String)

/-- How an argument that begins with two dashes uses an option, if there is such an option. -/
def readOption? (names : OptionNames) (argument : String) : Option OptionUse :=
  let (written, value) := Text.cutAt '=' argument.toList
  let name := String.ofList written
  if names.valued.contains name then
    match value with
    | some value => some (.hasValue name (String.ofList value))
    | none => some (.needsValue name)
  else if names.switches.contains name then
    if value.isSome then none else some (.switchesOn [name])
  else match argument.toList with
    | '-' :: '-' :: _ => none
    | '-' :: letters => (lettersOf? names letters).map .switchesOn
    | _ => none

/-- Tells arguments apart. Unless `anywhere` is set, the first positional argument and all after it
are positional. Nothing is returned for arguments that are refused. -/
def readArguments? (names : OptionNames) (anywhere : Bool) : List String → Option Arguments
  | [] => some .none
  | argument :: rest =>
      if argument = "--" then some { Arguments.none with positional := rest }
      else if isOption argument then
        match readOption? names argument with
        | none => none
        | some (.switchesOn on) =>
            (readArguments? names anywhere rest).map (·.withSwitches on)
        | some (.hasValue name value) =>
            (readArguments? names anywhere rest).map (·.withValue name value)
        | some (.needsValue name) =>
            match rest with
            | [] => none
            | value :: rest => (readArguments? names anywhere rest).map (·.withValue name value)
      else if anywhere then (readArguments? names anywhere rest).map (·.withPositional argument)
      else some { Arguments.none with positional := argument :: rest }

end Rulebook.CommandLine
