import Rulebook.Failure
import Rulebook.Json.Printer
import Rulebook.Rule
import Rulebook.Text.Blank
import Rulebook.Text.Case
import Rulebook.Text.Lines

/-!
# Filtering and counting rules

A filter keeps the rules with a given status, a given trigger and a given text in their name,
trigger type or trigger parameters; letter case does not matter. Counting looks at the status
only.
-/

namespace Rulebook

/-- Which rules a status filter keeps. -/
inductive StatusFilter
  | all
  | active
  | inactive
deriving DecidableEq, Repr, Inhabited

namespace StatusFilter

/-- The filter that a status names. -/
def ofName? : Json → Option StatusFilter
  | .str "all" => some all
  | .str "active" => some active
  | .str "inactive" => some inactive
  | _ => none

/-- The filter keeps a rule. -/
def keeps (filter : StatusFilter) (rule : Rule) : Bool :=
  match filter with
  | all => true
  | active => rule.isActive
  | inactive => !rule.isActive

end StatusFilter

/-- The trigger filter keeps a rule: `"all"` keeps every rule. -/
def keepsTrigger (triggerType : Json) (rule : Rule) : Bool :=
  triggerType == .str "all" || rule.trigger.type.agrees triggerType

/-- The text in which a search looks: the name, the type of the trigger and its parameters, in lower
case. -/
def searchableText (rule : Rule) : List Char :=
  Text.lower (rule.name.display ++ ' ' :: rule.trigger.type.display ++ ' ' ::
    ((rule.trigger.params.orElse (.obj [])).print Json.spaced))

/-- What is searched for: the trimmed text in lower case. -/
def needleOf (search : Json) : List Char :=
  Text.lower search.trimmedText

/-- The search keeps a rule: a blank search keeps every rule. -/
def keepsSearch (search : Json) (rule : Rule) : Bool :=
  (needleOf search).isEmpty || Text.occursIn (needleOf search) (searchableText rule)

/-- All three filters keep the rule. -/
def keepsRule (status : StatusFilter) (triggerType search : Json) (rule : Rule) : Bool :=
  status.keeps rule && keepsTrigger triggerType rule && keepsSearch search rule

/-- The rules that the filters keep, in order. A status that no filter has fails. -/
def filterRules (rules : List Rule) (status triggerType search : Json) :
    Except Failure (List Rule) :=
  match StatusFilter.ofName? status with
  | none => .error (.unknownStatus status)
  | some filter => .ok (rules.filter (keepsRule filter triggerType search))

/-- How many rules there are, and how many of them are switched on and off. -/
structure RuleStats where
  total : Nat
  active : Nat
  /-- Rules that are switched off. -/
  inactive : Nat
deriving DecidableEq, Repr, Inhabited

/-- How many rules there are, active and not. -/
def summarize (rules : List Rule) : RuleStats where
  total := rules.length
  active := rules.countP Rule.isActive
  inactive := rules.length - rules.countP Rule.isActive

end Rulebook
