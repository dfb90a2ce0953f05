import Mathlib
import Rulebook.Proofs.CommandLine.Runs
import Rulebook.Proofs.Console.Lines
import Rulebook.Proofs.Settings.Keys

/-!
# The token in what is shown

Of the token a person is shown no more than whether there is one and, if it is long, its first and
last characters. Two settings that differ in the token alone and whose tokens agree in this are told
apart by no key of a single setting, and by no key that leads nowhere. The key of the section of the
backend shows the section as a whole, with the token as it is.
-/

namespace Rulebook

namespace Settings

/-- Two secrets that look alike once their middle is hidden. -/
inductive LookAlike : (secret other : List Char) → Prop
  | empty : LookAlike [] []
  | short {secret other : List Char} (filled : secret ≠ []) (otherFilled : other ≠ [])
      (short : secret.length ≤ 8) (otherShort : other.length ≤ 8) : LookAlike secret other
  | long {secret other : List Char} (long : 8 < secret.length) (otherLong : 8 < other.length)
      (head : secret.take 4 = other.take 4)
      (last : secret.drop (secret.length - 4) = other.drop (other.length - 4)) :
      LookAlike secret other

/-- The settings differ in the token alone, and the two tokens look alike. -/
structure DifferInToken (settings other : Settings) : Prop where
  others : ∀ setting, setting ≠ .token → settings.get setting = other.get setting
  tokens : LookAlike settings.api.token.toList other.api.token.toList

/-- Behind a key of a secret, secrets that look alike are shown alike. -/
theorem shown_of_lookAlike {key secret other : String} (isSecret : isSecretKey key = true)
    (alike : LookAlike secret.toList other.toList) :
    shown key (.str secret) = shown key (.str other) := by
  have filled {text : String} (notEmpty : text.toList ≠ []) :
      shown key (.str text) = masked text.toList := by
    have visible : text.isEmpty = false := by simpa using notEmpty
    simp [shown, isSecret, visible]
  generalize secretChars : secret.toList = chars, otherChars : other.toList = otherChars at alike
  cases alike with
  | empty => rw [String.toList_inj.mp (secretChars.trans otherChars.symm)]
  | short notEmpty otherNotEmpty short otherShort =>
      subst secretChars otherChars
      rw [filled notEmpty, filled otherNotEmpty, masked, masked, if_neg (by omega),
        if_neg (by omega)]
  | long long otherLong head last =>
      subst secretChars otherChars
      have notEmpty : secret.toList ≠ [] := List.ne_nil_of_length_pos (by omega)
      have otherNotEmpty : other.toList ≠ [] := List.ne_nil_of_length_pos (by omega)
      rw [filled notEmpty, filled otherNotEmpty, masked, masked, if_pos long, if_pos otherLong,
        head, last]

theorem DifferInToken.log_eq {settings other : Settings} (differ : settings.DifferInToken other) :
    settings.log = other.log := by
  rcases settings with ⟨_, ⟨level, file, toFile⟩⟩
  rcases other with ⟨_, ⟨otherLevel, otherFile, otherToFile⟩⟩
  cases differ.others .logLevel nofun
  cases differ.others .logFile nofun
  cases differ.others .logToFile nofun
  rfl

/-- The section of the backend, field by field. -/
def apiFields (settings : Settings) : Json.Fields :=
  [("base_url", settings.get .baseUrl), ("token", settings.get .token),
    ("timeout", settings.get .timeout)]

/-- The section of the log, field by field. -/
def logFields (log : LogSettings) : Json.Fields :=
  [("level", .str log.level), ("file", .str log.file), ("log_to_file", .bool log.toFile)]

/-- Both sections, field by field. -/
def sections (settings : Settings) : Json.Fields :=
  [("api", .obj settings.apiFields), ("logging", .obj (logFields settings.log))]

theorem valueAt?_toJson (settings : Settings) (name : String) (path : List String) :
    valueAt? settings.toJson (name :: path) =
      match settings.sections.get? name with
      | some inner => valueAt? inner path
      | none => none := rfl

theorem valueAt?_toJson_api (settings : Settings) (name : String) (path : List String) :
    valueAt? settings.toJson ("api" :: name :: path) =
      match settings.apiFields.get? name with
      | some inner => valueAt? inner path
      | none => none := rfl

/-- A key that is not that of the section of the backend leads to the same value, or to the
token. -/
theorem DifferInToken.lookup?_eq_or {settings other : Settings}
    (differ : settings.DifferInToken other) {key : String} (single : key ≠ "api") :
    settings.lookup? key = other.lookup? key ∨
      key = SettingKey.token.dotted ∧ settings.lookup? key = some (settings.get .token) ∧
        other.lookup? key = some (other.get .token) := by
  have fromKey {names : List String} (cut : keyNames key = names) (expected : String)
      (same : Text.join ['.'] (names.map String.toList) = expected.toList) : key = expected := by
    rw [← String.toList_inj, toList_of_keyNames cut, same]
  simp only [lookup?]
  rcases cut : keyNames key with _ | ⟨sectionName, path⟩
  · exact absurd cut (keyNames_ne_nil key)
  by_cases isApi : sectionName = "api"
  · subst isApi
    rcases path with _ | ⟨name, more⟩
    · exact absurd (fromKey cut "api" rfl) single
    · by_cases isToken : name = "token"
      · subst isToken
        rcases more with _ | ⟨further, rest⟩
        · exact Or.inr ⟨fromKey cut _ rfl, rfl, rfl⟩
        · exact Or.inl rfl
      · left
        have field : (settings.apiFields).get? name = (other.apiFields).get? name := by
          have notToken : (name == "token") = false := beq_false_of_ne isToken
          simp only [apiFields, Json.Fields.get?, List.lookup_cons, notToken,
            differ.others .baseUrl nofun, differ.others .timeout nofun]
        rw [valueAt?_toJson_api, valueAt?_toJson_api, field]
  · left
    have field : (settings.sections).get? sectionName = (other.sections).get? sectionName := by
      have notApi : (sectionName == "api") = false := beq_false_of_ne isApi
      simp only [sections, Json.Fields.get?, List.lookup_cons, notApi, differ.log_eq]
    rw [valueAt?_toJson, valueAt?_toJson, field]

/-- So it shows the same. -/
theorem DifferInToken.shown_eq {settings other : Settings} (differ : settings.DifferInToken other)
    {key : String} (single : key ≠ "api") :
    (settings.lookup? key).map (shown key) = (other.lookup? key).map (shown key) := by
  rcases differ.lookup?_eq_or single with same | ⟨rfl, held, otherHeld⟩
  · rw [same]
  · rw [held, otherHeld]
    exact congrArg some (shown_of_lookAlike rfl differ.tokens)

end Settings

namespace CommandLine

variable {σ : Type}

/-- The exit code and the text that comes of asking for a setting, given how its value is shown if
there is one. -/
def settingAnswer (key : String) : (found : Option (List Char)) → Nat × List Char
  | none =>
      match Console.printed (Program.styled "red" ("Key not found: ".toList ++ key.toList)) with
      | .ok shown => (1, shown)
      | .error _ => (1, [])
  | some value =>
      match Console.printed value with
      | .ok shown => (0, shown)
      | .error _ => (1, [])

/-- Asking for a setting shows its value. -/
theorem execute_getSetting (surroundings : Surroundings σ) (start : Run σ) {settings : Settings}
    (loads : Loads surroundings start settings) (key : String) :
    let done := Program.execute (getSetting key) surroundings start
    let answer := settingAnswer key ((settings.lookup? key).map (Settings.shown key))
    exitCode done.1 = answer.1 ∧ done.2.printed = start.printed ++ answer.2 := by
  rcases Program.execute_loadSettings surroundings start loads with ⟨records, loaded⟩
  rw [getSetting, Program.execute_bind, loaded]
  cases found : settings.lookup? key with
  | none =>
      simp only [found, Program.execute_reject, Option.map_none, settingAnswer]
      cases Console.printed (Program.styled "red" ("Key not found: ".toList ++ key.toList)) with
      | ok shown => exact ⟨rfl, rfl⟩
      | error failure => exact ⟨rfl, (List.append_nil _).symm⟩
  | some value =>
      simp only [found, Program.execute_say, Option.map_some, settingAnswer]
      cases Console.printed (Settings.shown key value) with
      | ok shown => exact ⟨rfl, rfl⟩
      | error failure => exact ⟨rfl, (List.append_nil _).symm⟩

/-- A value whose text fits into a line is printed as it is. -/
theorem printed_getSetting {surroundings : Surroundings σ} {start : Run σ} {settings : Settings}
    {arguments : List String} {key : String} {verbose : Bool} {setup : LogSetup} {line : List Char}
    (asks : AskFor arguments (.getSetting key) verbose)
    (prepared : prepareLog surroundings start.file verbose = .ok setup)
    (loads : Loads surroundings start settings)
    (found : (settings.lookup? key).map (Settings.shown key) = some line)
    (plain : Console.plainText line = .ok line)
    (visible : line.all Console.isVisibleAscii = true)
    (fits : line.length ≤ Console.consoleWidth) :
    (runWith surroundings arguments start).printed = start.printed ++ (line ++ ['\n']) := by
  have answer : settingAnswer key (some line) = (0, line ++ ['\n']) := by
    rw [settingAnswer, Console.printed_of_fits plain (List.all_eq_true.mp visible) fits]
  rw [(runWith_of_prepared asks prepared).2.1]
  have answered := (execute_getSetting surroundings start loads key).2
  rwa [found, answer] at answered

/-- Whether the log can be set up does not depend on the token. -/
theorem prepareLog_eq {first second : Surroundings σ} {start other : Run σ}
    {settings changed : Settings} (homes : first.homes = second.homes)
    (loads : Loads first start settings) (otherLoads : Loads second other changed)
    (differ : settings.DifferInToken changed) (verbose : Bool) :
    prepareLog first start.file verbose = prepareLog second other.file verbose := by
  rw [Loads] at loads otherLoads
  simp only [prepareLog, loads, otherLoads, Settings.logPath, differ.log_eq, homes]

/-- Asking for the setting with a key shows the same, and ends with the same exit code, for any two
settings that differ in the token alone, as long as the two tokens look alike. -/
def HidesToken (key : String) : Prop :=
  ∀ {σ : Type} (first second : Surroundings σ) (start other : Run σ) (settings changed : Settings)
    (arguments : List String) (verbose : Bool), AskFor arguments (.getSetting key) verbose →
    first.homes = second.homes → start.printed = other.printed →
    Loads first start settings → Loads second other changed → settings.DifferInToken changed →
    (runWith first arguments start).printed = (runWith second arguments other).printed ∧
      (runWith first arguments start).code = (runWith second arguments other).code

theorem hidesToken_of_ne {key : String} (single : key ≠ "api") : HidesToken key := by
  intro σ first second start other settings changed arguments verbose asks homes printed loads
    otherLoads differ
  have sameLog := prepareLog_eq homes loads otherLoads differ verbose
  cases prepared : prepareLog first start.file verbose with
  | error failure =>
      have run := runWith_of_unprepared asks prepared
      have otherRun := runWith_of_unprepared asks (sameLog ▸ prepared)
      exact ⟨by rw [run.2.1, otherRun.2.1, printed], by rw [run.1, otherRun.1]⟩
  | ok setup =>
      have run := runWith_of_prepared asks prepared
      have otherRun := runWith_of_prepared asks (sameLog ▸ prepared)
      have answered := execute_getSetting first start loads key
      have otherAnswered := execute_getSetting second other otherLoads key
      rw [← differ.shown_eq single, ← printed] at otherAnswered
      refine ⟨?_, ?_⟩
      · rw [run.2.1, otherRun.2.1]
        exact answered.2.trans otherAnswered.2.symm
      · rw [run.1, otherRun.1]
        exact answered.1.trans otherAnswered.1.symm

/-! ## The section as a whole -/

/-- A place whose environment has a token. -/
def withToken (token : String) : Surroundings Unit :=
  offline [("ZIGRAN_API__TOKEN", token)]

/-- The settings that are loaded there. -/
def settingsWithToken (token : String) : Settings :=
  { Settings.default with api := { ApiSettings.default with token := token } }

/-- The text that the key of the section shows there. -/
def sectionText (token : String) : List Char :=
  "\x7b'base_url': 'https://api.zigran.com/api', 'token': '".toList ++ token.toList ++
    "', 'timeout': 10.0\x7d\n".toList

/-- Two tokens that look alike are told apart by the section. -/
theorem section_tells_apart :
    (∀ token ∈ ["aaaa1bbbb", "aaaa2bbbb"],
      Loads (withToken token) (startWith none) (settingsWithToken token) ∧
        (runWith (withToken token) ["config", "get", "--", "api"] (startWith none)).printed =
          sectionText token) ∧
      (settingsWithToken "aaaa1bbbb").DifferInToken (settingsWithToken "aaaa2bbbb") := by
  have loads : ∀ token ∈ ["aaaa1bbbb", "aaaa2bbbb"],
      Loads (withToken token) (startWith none) (settingsWithToken token) ∧
        (prepareLog (withToken token) none false).isOk = true := by decide +kernel
  have shows : ∀ token ∈ ["aaaa1bbbb", "aaaa2bbbb"],
      let line := (sectionText token).dropLast
      ((settingsWithToken token).lookup? "api").map (Settings.shown "api") = some line ∧
        Console.plainText line = .ok line ∧ line.all Console.isVisibleAscii = true ∧
        line.length ≤ Console.consoleWidth ∧ line ++ ['\n'] = sectionText token := by
    decide +kernel
  refine ⟨fun token listed => ⟨(loads token listed).1, ?_⟩, fun setting notToken => ?_, ?_⟩
  · rcases loads token listed with ⟨loaded, isPrepared⟩
    rcases shows token listed with ⟨found, plain, visible, fits, ended⟩
    cases prepared : prepareLog (withToken token) none false with
    | error failure =>
        rw [prepared] at isPrepared
        exact absurd isPrepared Bool.false_ne_true
    | ok setup =>
        have printed := printed_getSetting (askFor_getSetting "api") prepared loaded found plain
          visible fits
        rwa [ended] at printed
  · cases setting with
    | token => exact absurd rfl notToken
    | _ => rfl
  · exact .long (by decide) (by decide) (by decide) (by decide)

theorem HidesToken.ne_section {key : String} (hides : HidesToken key) : key ≠ "api" := by
  rintro rfl
  rcases section_tells_apart with ⟨shows, differ⟩
  have first := shows "aaaa1bbbb" (by simp)
  have second := shows "aaaa2bbbb" (by simp)
  have same := (hides (withToken "aaaa1bbbb") (withToken "aaaa2bbbb") (startWith none)
    (startWith none) _ _ _ _ (askFor_getSetting "api") rfl rfl first.1 second.1 differ).1
  rw [first.2, second.2] at same
  exact absurd same (by decide)

/-- Asking for a setting hides the token exactly if the key is not that of the section of the
backend. -/
theorem hidesToken_iff {key : String} : HidesToken key ↔ key ≠ "api" :=
  ⟨HidesToken.ne_section, hidesToken_of_ne⟩

example : (runWith (withToken "aaaa1bbbb") ["config", "get", "api.token"] (startWith none)).printed =
    "aaaa...bbbb\n".toList := by decide +kernel

/-- The key of the section does not hide the token. -/
theorem not_hidesToken_api : ¬ HidesToken "api" :=
  fun hides => hides.ne_section rfl

end CommandLine

end Rulebook
