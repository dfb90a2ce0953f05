import Rulebook.Draft
import Rulebook.Text.Blank

/-!
# Reading and writing conditions

The fields of the conditions are read into an object that holds only the conditions that are
filled in; when none is, there is no object at all. Numbers of minutes are read leniently: the
digits in front count, a negative number counts as zero, and so does a text without digits.
-/

namespace Rulebook

/-- The sign and the digit values of the integer in front of a text; without digits there is
none. -/
def leadingInteger? (text : List Char) : Option (Bool × List Nat) :=
  let (negative, digits) := match text with
    | '-' :: rest => (true, Text.digitRun rest)
    | '+' :: rest => (false, Text.digitRun rest)
    | _ => (false, Text.digitRun text)
  if digits.isEmpty then none else some (negative, digits)

/-- Reads the number in front of a text leniently. Only a number with more digits than are
converted fails. -/
def lenientNat (text : List Char) : Except Failure Nat :=
  match leadingInteger? (Text.trim text) with
  | none => .ok 0
  | some (negative, digits) =>
      if Json.digitLimit < digits.length then .error (.tooManyDigits digits.length)
      else .ok (if negative then 0 else Text.numberOfDigits digits)

/-- The natural number that any value stands for: truth values count as zero, and integers are not
read from their text. -/
def lenientNatOf : Json → Except Failure Nat
  | .bool _ => .ok 0
  | .int value => .ok value.toNat
  | value => lenientNat value.filledText

namespace ConditionDraft

/-- The text of a condition without the blanks around it. -/
def trimmed (draft : ConditionDraft) (key : ConditionKey) : List Char :=
  (draft.field key).trimmedText

/-- No field holds anything but blanks. A field must hold a text to be looked at. -/
def isBlank (draft : ConditionDraft) : Except Failure Bool :=
  ConditionKey.all.foldr
    (fun key later =>
      match draft.field key with
      | .str text => if (Text.trim text.toList).isEmpty then later else .ok false
      | value => .error (.notText value))
    (.ok true)

/-- The value of a condition that is filled in. -/
def compileValue (key : ConditionKey) (text : List Char) : Except Failure Json :=
  if key.isNumeric then (lenientNat text).map fun number => .int number
  else .ok (.str (String.ofList text))

/-- The bindings of the conditions among `keys` that are filled in. -/
def compileKeys (draft : ConditionDraft) : List ConditionKey → Except Failure Json.Fields
  | [] => .ok []
  | key :: keys =>
      let text := draft.trimmed key
      if text.isEmpty then draft.compileKeys keys
      else
        match compileValue key text with
        | .error failure => .error failure
        | .ok value =>
            match draft.compileKeys keys with
            | .error failure => .error failure
            | .ok fields => .ok ((key.name, value) :: fields)

/-- The conditions as a rule holds them: `null` where none is filled in. -/
def compile (draft : ConditionDraft) : Except Failure Json :=
  match draft.compileKeys ConditionKey.all with
  | .error failure => .error failure
  | .ok [] => .ok .null
  | .ok fields => .ok (.obj fields)

/-- The text in which the value of a condition is edited. Truth values, lists and objects cannot be
edited as a condition and are left out. -/
def valueText : Json → Json
  | .null | .bool _ | .arr _ | .obj _ => .str ""
  | value => .str (String.ofList value.display)

/-- The texts of the conditions of a rule. -/
def ofConditions (conditions : Json) : ConditionDraft :=
  ⟨fun key => valueText (conditions.field key.name)⟩

end ConditionDraft

/-- The conditions of a draft as a rule holds them. -/
def compileConditions : Option ConditionDraft → Except Failure Json
  | none => .ok .null
  | some draft => draft.compile

end Rulebook
