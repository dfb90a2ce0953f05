import Rulebook.Http.HostName
import Rulebook.Json.Display
import Rulebook.Json.Syntax
import Rulebook.Text.Charset

/-!
# Failures

Everything that can go wrong, by its cause. A failure of a rule draft is found before anything is
sent; a network failure names the request that failed and, where there was a response, its status
and body. The wording of every failure is `Failure.message`; failures that a caller handles by
kind have a code and details as well, which `Report` gathers.
-/

namespace Rulebook

/-- Which field of a form held text that is not JSON. -/
inductive JsonTextKind
  | anyField
  | triggerParams
  | templateVariables
  | webhookBody
  | taskConditions
  | actionParams
  | eventPayload
deriving DecidableEq, Repr, Inhabited

/-- The code of a failure to read such a text. -/
def JsonTextKind.code : JsonTextKind → String
  | anyField => "json"
  | triggerParams => "trigger_params_json"
  | templateVariables => "variables_json"
  | webhookBody => "body_json"
  | taskConditions => "task_conditions_json"
  | actionParams => "params_json"
  | eventPayload => "payload_json"

/-- The failures that callers handle by kind. -/
inductive FailureKind
  | general
  /-- A draft that cannot be compiled, for no particular reason. -/
  | invalidRule
  | missingName
  | missingTriggerType
  | emptyActions
  | missingActionParam
  | invalidJson (kind : JsonTextKind)
  /-- A request that failed. -/
  | network
deriving DecidableEq, Repr, Inhabited

/-- The code under which a failure of the kind is known. -/
def FailureKind.code : FailureKind → String
  | general => "automation_error"
  | invalidRule => "validation"
  | missingName => "missing_name"
  | missingTriggerType => "missing_trigger_type"
  | emptyActions => "empty_actions"
  | missingActionParam => "missing_action_param"
  | invalidJson kind => kind.code
  | network => "network"

/-- What went wrong. -/
inductive Failure
  | missingName (message : String)
  | missingTriggerType (message : String)
  | emptyActions (message : String)
  | missingActionParam (param actionType localId : Json)
  | invalidJson (kind : JsonTextKind) (message : Option String) (field localId : Json)
      (cause : String)
  /-- A request failed; without a status there was no response. -/
  | network (message : String) (method url status payload : Json)
  /-- A whole number has more digits than are converted. -/
  | tooManyDigits (count : Nat)
  | notJson (message : String)
  /-- A filter names a status that no rule can have. -/
  | unknownStatus (status : Json)
  /-- A request was to be resolved without a candidate. -/
  | noCandidates
  /-- A body holds a number that JSON cannot express. -/
  | numberOutOfRange
  | invalidUrl (message : String)
  | invalidHostName (fault : HostFault)
  | unknownScheme (address : String)
  /-- The host in a reference opens a bracket and does not close it, or the other way round. -/
  | unevenBrackets
  /-- A header holds characters outside ASCII: the text, and the first and last of them in the
  first run of such characters. -/
  | headerNotAscii (text : String) (first last : Nat)
  /-- The body of a response cannot be read in its character set. -/
  | unreadableBody (fault : Text.CharsetFault)
  | notUtf8 (message : String)
  /-- A value for a logging level that is no level. -/
  | unknownLevel (level : String)
  /-- A table of line formats stands for a logging level. -/
  | formatsForLevel
  /-- An environment variable cannot be read. -/
  | environmentUnreadable
  /-- Settings with invalid values, by the dotted names of their places. -/
  | invalidSettings (places : List String)
  /-- Markup in a printed text closes a style that is not open. -/
  | unbalancedMarkup (message : String)
  /-- A part of a colour in a style is not a number. -/
  | notNumber (text : String)
  /-- A path stands for a directory where a file is needed. -/
  | isDirectory (path : String)
  | unknownHome
  /-- A path or the name of a user holds the character with the code zero. -/
  | zeroInPath
  | notText (value : Json)
  /-- A list or an object stands where a name is looked up. -/
  | notName (value : Json)
  | notDistance (value : Json)
  /-- A distance between places is a number that is not whole. -/
  | brokenDistance
  | unknownTemplate
  /-- A value that stands for an object has no parts. -/
  | notIterable (value : Json)
  /-- An item of a list that stands for an object has no parts. -/
  | notPair (index : Nat)
  /-- An item of a list that stands for an object has other than two parts. -/
  | unevenPair (index length : Nat)
  /-- A report is made without an argument that it needs. -/
  | missingArgument (owner name : String)
  /-- A report is made with an argument that it does not have. -/
  | unknownArgument (owner name : String)
deriving DecidableEq, Repr, Inhabited

namespace Failure

/-- The name of a rule is blank. -/
def nameRequired : Failure := missingName "Automation name is required."

/-- The type of the trigger is blank. -/
def triggerTypeRequired : Failure := missingTriggerType "Trigger type is required."

/-- A rule has no action. -/
def actionRequired : Failure := emptyActions "Add at least one action."

/-- The kind of a failure that the program raises itself; one from below has none. -/
def kind? : Failure → Option FailureKind
  | missingName _ => some .missingName
  | missingTriggerType _ => some .missingTriggerType
  | emptyActions _ => some .emptyActions
  | missingActionParam .. => some .missingActionParam
  | invalidJson kind .. => some (.invalidJson kind)
  | network .. => some .network
  | _ => none

/-- The code of a failure that callers handle by kind. -/
def code? (failure : Failure) : Option String :=
  failure.kind?.map FailureKind.code

/-- The failure says that a draft cannot be compiled. -/
def isRuleValidation : Failure → Bool
  | missingName _ | missingTriggerType _ | emptyActions _ | missingActionParam ..
  | invalidJson .. => true
  | _ => false

/-- The failure belongs to the kinds that a command reports in one line. -/
def isReported (failure : Failure) : Bool :=
  failure.kind?.isSome

/-- The message about a parameter that the action lacks. -/
def paramMessage (param actionType : Json) : List Char :=
  (actionType.orElse (.str "Action")).display ++ " requires '".toList ++
    param.display ++ "'.".toList

/-- The message about a field whose text cannot be read. -/
def jsonMessage (field : Json) : List Char :=
  "Invalid JSON in ".toList ++ (field.orElse (.str "field")).display ++ ['.']

/-- The text that tells what failed. -/
def message : Failure → List Char
  | missingName message | missingTriggerType message | emptyActions message
  | network message .. | notJson message | invalidUrl message | notUtf8 message
  | unbalancedMarkup message => message.toList
  | missingActionParam param actionType _ => paramMessage param actionType
  | invalidJson _ message field _ _ =>
      match message with
      | some text => text.toList
      | none => jsonMessage field
  | tooManyDigits count => Json.digitLimitMessage count
  | unknownStatus status => "Unknown status filter: ".toList ++ status.quoted
  | noCandidates => "At least one candidate request is required".toList
  | numberOutOfRange => "Out of range float values are not JSON compliant".toList
  | invalidHostName fault => fault.message
  | unreadableBody fault => fault.message
  | unknownScheme address => "unknown url type: ".toList ++ Text.quoted address.toList
  | unevenBrackets => "Invalid IPv6 URL".toList
  | headerNotAscii text first last =>
      if first = last then
        "'ascii' codec can't encode character '".toList ++
          ((text.toList[first]?).map fun character =>
            Text.escapedCode character.toNat).getD [] ++
          "' in position ".toList ++ Text.decimal first ++
          ": ordinal not in range(128)".toList
      else
        "'ascii' codec can't encode characters in position ".toList ++ Text.decimal first ++
          '-' :: Text.decimal last ++ ": ordinal not in range(128)".toList
  | unknownLevel level => "Unknown level: ".toList ++ Text.quoted level.toList
  | formatsForLevel =>
      "Level not an integer or a valid string: \x7b'%': (<class 'logging.PercentStyle'>, ".toList ++
        "'%(levelname)s:%(name)s:%(message)s'), ".toList ++
        "'\x7b': (<class 'logging.StrFormatStyle'>, ".toList ++
        "'\x7blevelname\x7d:\x7bname\x7d:\x7bmessage\x7d'), ".toList ++
        "'$': (<class 'logging.StringTemplateStyle'>, ".toList ++
        "'$\x7blevelname\x7d:$\x7bname\x7d:$\x7bmessage\x7d')\x7d".toList
  | environmentUnreadable => "error parsing an environment variable".toList
  | invalidSettings places => "Invalid settings: ".toList ++
      (", ".intercalate places).toList
  | notNumber text => "invalid literal for int() with base 10: ".toList ++
      Text.quoted text.toList
  | isDirectory path => "[Errno 21] Is a directory: ".toList ++ Text.quoted path.toList
  | unknownHome => "Could not determine home directory.".toList
  | zeroInPath => "embedded null byte".toList
  | notText value => Text.quoted value.typeName.toList ++
      " object has no attribute 'strip'".toList
  | notName value => "unhashable type: ".toList ++ Text.quoted value.typeName.toList
  | notDistance value => "unsupported operand type(s) for +: 'int' and ".toList ++
      Text.quoted value.typeName.toList
  | brokenDistance => "list indices must be integers or slices, not float".toList
  | unknownTemplate => "'NoneType' object has no attribute 'actions'".toList
  | notIterable value => Text.quoted value.typeName.toList ++
      " object is not iterable".toList
  | notPair index => "cannot convert dictionary update sequence element #".toList ++
      Text.decimal index ++ " to a sequence".toList
  | unevenPair index length => "dictionary update sequence element #".toList ++
      Text.decimal index ++ " has length ".toList ++ Text.decimal length ++
      "; 2 is required".toList
  | missingArgument owner name => owner.toList ++
      ".__init__() missing 1 required positional argument: ".toList ++ Text.quoted name.toList
  | unknownArgument owner name => owner.toList ++
      ".__init__() got an unexpected keyword argument ".toList ++ Text.quoted name.toList

/-- What a handler is told beside the message. -/
def details : Failure → Json.Fields
  | missingActionParam param actionType localId =>
      [("param", param), ("action_type", actionType), ("local_id", localId)]
  | invalidJson _ _ field localId cause =>
      [("field", field), ("local_id", localId), ("cause", .str cause)]
  | network _ method url status _ =>
      [("method", method), ("url", url), ("status_code", status)]
  | _ => []

end Failure

end Rulebook
