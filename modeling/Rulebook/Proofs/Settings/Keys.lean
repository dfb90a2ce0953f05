import Mathlib
import Rulebook.Proofs.Number.Proper
import Rulebook.Proofs.Text.Items
import Rulebook.Settings.Access

/-!
# Keys of settings

The dotted key of a setting is the name of its section, a point and its own name. A text names a
setting exactly if it is one of the six dotted keys. Under such a key the setting can be given the
value that a text stands for, and no other setting changes.
-/

namespace Rulebook

/-- The dotted key of a setting. -/
def SettingKey.dotted (setting : SettingKey) : String :=
  setting.sectionName ++ "." ++ setting.name

theorem SettingKey.ofNames?_eq_some_iff {sectionName name : String} {setting : SettingKey} :
    ofNames? sectionName name = some setting ↔
      setting.sectionName = sectionName ∧ setting.name = name := by
  constructor
  · intro found
    simpa using List.find?_some found
  · rintro ⟨rfl, rfl⟩
    cases setting <;> rfl

namespace Settings

/-- A dotted key consists of its names. -/
theorem toList_of_keyNames {key : String} {names : List String} (cut : keyNames key = names) :
    key.toList = Text.join ['.'] (names.map String.toList) := by
  rw [← cut, keyNames, List.map_map]
  have same : String.toList ∘ String.ofList = id := funext fun _ => String.toList_ofList
  rw [same, List.map_id, Text.join_splitAt]

theorem keyNames_ne_nil (key : String) : keyNames key ≠ [] := by
  rw [keyNames, ne_eq, List.map_eq_nil_iff]
  exact Text.splitAt_ne_nil _

theorem keyNames_dotted (setting : SettingKey) :
    keyNames setting.dotted = [setting.sectionName, setting.name] := by
  cases setting <;> decide +kernel

theorem settingOf_eq_ok_iff {key : String} {setting : SettingKey} :
    settingOf key = .ok setting ↔ key = setting.dotted := by
  constructor
  · intro found
    rw [settingOf] at found
    split at found
    · next sectionName name cut =>
      split at found
      · next named =>
        cases found
        rcases SettingKey.ofNames?_eq_some_iff.mp named with ⟨rfl, rfl⟩
        rw [← String.toList_inj, toList_of_keyNames cut, SettingKey.dotted]
        simp [Text.join]
      · cases found
    · cases found
  · rintro rfl
    have named : SettingKey.ofNames? setting.sectionName setting.name = some setting :=
      SettingKey.ofNames?_eq_some_iff.mpr ⟨rfl, rfl⟩
    rw [settingOf, keyNames_dotted]
    simp only [named]

theorem dotted_injective : Function.Injective SettingKey.dotted := by
  intro setting other same
  have found := settingOf_eq_ok_iff.mpr same
  rw [settingOf_eq_ok_iff.mpr rfl] at found
  exact Except.ok.inj found

/-! ## Changing a setting -/

/-- A text stands for a value of a setting: for itself where the setting is a text, for a defined
number, or for yes or no, where three words in any case are the ones for yes. -/
inductive StandsFor (text : String) : SettingKey → Json → Prop
  | baseUrl : StandsFor text .baseUrl (.str text)
  | token : StandsFor text .token (.str text)
  | timeout {number : Binary64} (typed : Binary64.ofTyped? text.toList = some number)
      (defined : number ≠ .undefined) : StandsFor text .timeout (.real number)
  | logLevel : StandsFor text .logLevel (.str text)
  | logFile : StandsFor text .logFile (.str text)
  | logToFile : StandsFor text .logToFile
      (.bool (decide (String.ofList (Text.lower text.toList) ∈ ["true", "1", "yes"])))

/-- One setting has a new value, and all others are as they were. -/
structure ChangedIn (settings : Settings) (setting : SettingKey) (value : Json)
    (changed : Settings) : Prop where
  assigned : changed.get setting = value
  kept : ∀ other, other ≠ setting → changed.get other = settings.get other

theorem switchWords_contains (word : List Char) :
    switchWords.contains word = decide (String.ofList word ∈ ["true", "1", "yes"]) := by
  simp [switchWords, ← String.toList_inj]

/-- Setting one of the settings keeps the others. -/
theorem get_of_set?_of_ne {settings changed : Settings} {setting other : SettingKey} {text : String}
    (set : settings.set? setting text = some changed) (differs : other ≠ setting) :
    changed.get other = settings.get other := by
  cases setting with
  | timeout =>
      rcases Option.map_eq_some_iff.mp set with ⟨number, _, rfl⟩
      cases other <;> first | rfl | exact absurd rfl differs
  | _ =>
      cases set
      cases other <;> first | rfl | exact absurd rfl differs

/-- What a text stands for can be set, and nothing else changes. -/
theorem StandsFor.exists_set? {text : String} {setting : SettingKey} {value : Json}
    (stands : StandsFor text setting value) (settings : Settings) :
    ∃ changed, settings.set? setting text = some changed ∧
      settings.ChangedIn setting value changed := by
  have assigned : ∃ changed, settings.set? setting text = some changed ∧
      changed.get setting = value := by
    cases stands with
    | timeout typed => exact ⟨_, by rw [set?, typed]; rfl, rfl⟩
    | logToFile => exact ⟨_, rfl, congrArg Json.bool (switchWords_contains _)⟩
    | _ => exact ⟨_, rfl, rfl⟩
  rcases assigned with ⟨changed, set, assigned⟩
  exact ⟨changed, set, assigned, fun _ => get_of_set?_of_ne set⟩

/-- A change keeps the time to wait proper. -/
theorem isProper_timeout_of_set? {settings changed : Settings} {setting : SettingKey}
    {text : String} (isProper : settings.api.timeout.IsProper)
    (set : settings.set? setting text = some changed) : changed.api.timeout.IsProper := by
  cases setting with
  | timeout =>
      rcases Option.map_eq_some_iff.mp set with ⟨number, typed, rfl⟩
      exact Binary64.isProper_of_realBy? typed
  | _ =>
      cases set
      exact isProper

/-- The key is that of no setting, or that of a number, and the text is none. -/
def Rejects (key text : String) : Prop :=
  (∀ setting : SettingKey, key ≠ setting.dotted) ∨
    key = SettingKey.timeout.dotted ∧ Binary64.ofTyped? text.toList = none

theorem set?_eq_none_iff {settings : Settings} {setting : SettingKey} {text : String} :
    settings.set? setting text = none ↔
      setting = .timeout ∧ Binary64.ofTyped? text.toList = none := by
  cases setting with
  | timeout => simp [set?]
  | _ => simp [set?]

theorem exists_assign_eq_error_iff {settings : Settings} {key text : String} :
    (∃ fault, settings.assign key text = .error fault) ↔ Rejects key text := by
  rw [assign]
  cases found : settingOf key with
  | error fault =>
      refine iff_of_true ⟨fault, rfl⟩ (Or.inl fun setting isKey => ?_)
      rw [settingOf_eq_ok_iff.mpr isKey] at found
      cases found
  | ok setting =>
      cases settingOf_eq_ok_iff.mp found
      have rejects : Rejects setting.dotted text ↔ settings.set? setting text = none := by
        rw [set?_eq_none_iff]
        constructor
        · rintro (noSetting | ⟨isTimeout, noNumber⟩)
          · exact absurd rfl (noSetting setting)
          · exact ⟨dotted_injective isTimeout, noNumber⟩
        · rintro ⟨rfl, noNumber⟩
          exact Or.inr ⟨rfl, noNumber⟩
      rw [rejects]
      simp only
      split
      · next unset => exact iff_of_true ⟨_, rfl⟩ unset
      · next changed set => exact iff_of_false nofun (by simp [set])

theorem exists_assign_eq_ok {setting : SettingKey} {text : String} {value : Json}
    (stands : StandsFor text setting value) (settings : Settings) :
    ∃ changed, settings.assign setting.dotted text = .ok (changed, value) ∧
      settings.set? setting text = some changed ∧ settings.ChangedIn setting value changed := by
  rcases stands.exists_set? settings with ⟨changed, set, changedIn⟩
  refine ⟨changed, ?_, set, changedIn⟩
  rw [assign, settingOf_eq_ok_iff.mpr rfl]
  simp only [set, changedIn.assigned]

end Settings

end Rulebook
