import Mathlib
import Rulebook.Proofs.Query.Filters
import Rulebook.Proofs.Text.LowerText

/-!
# What a search finds

A rule contains a text if the text stands in its name, in its trigger type or in the JSON text of
its trigger parameters. A search compares lower case with lower case, each taken by itself. A
searched text is therefore found in all rules that contain it exactly if none of its capital sigmas
is open: the surroundings of an open sigma in the rule can give it the other one of its two
lower-case forms. Apart from that a search only misses parameters that count as nothing, because an
empty object is searched in their place.
-/

namespace Rulebook

/-- The JSON text of the parameters of a rule's trigger; a trigger without parameters has an empty
object. -/
def Rule.paramsText (rule : Rule) : List Char :=
  (if rule.trigger.params = .null then .obj [] else rule.trigger.params).print Json.spaced

/-- The text stands in the name, in the trigger type or in the trigger parameters. -/
def Rule.Contains (rule : Rule) (text : List Char) : Prop :=
  text <:+: rule.name.display ∨ text <:+: rule.trigger.type.display ∨ text <:+: rule.paramsText

instance (rule : Rule) (text : List Char) : Decidable (rule.Contains text) :=
  inferInstanceAs (Decidable (_ ∨ _ ∨ _))

/-- A search for the text keeps the rule in every list. -/
def Rule.IsFoundBy (rule : Rule) (text : List Char) : Prop :=
  ∀ rules, rule ∈ rules → ∃ kept,
    filterRules rules (.str "all") (.str "all") (.str (String.ofList text)) = .ok kept ∧ rule ∈ kept

/-- A search for the text or for its lower case misses no rule that contains the text. -/
def SearchFinds (text : List Char) : Prop :=
  ∀ rule : Rule, rule.Contains text → rule.IsFoundBy text ∧ rule.IsFoundBy (Text.lower text)

/-- The parameters that are given and count as nothing, other than the empty object. -/
def emptyParams : List Json :=
  [.bool false, .int 0, .real (.signedZero false), .real (.signedZero true), .str "", .arr []]

/-- The text is not empty and is a part of the JSON text of parameters that count as nothing. -/
def IsPartOfEmptyParams (text : List Char) : Prop :=
  text ≠ [] ∧ ∃ params ∈ emptyParams, text <:+: params.print Json.spaced

instance (text : List Char) : Decidable (IsPartOfEmptyParams text) :=
  inferInstanceAs (Decidable (_ ∧ _))

/-- The text that is searched, as it is written. -/
def Rule.searchedText (rule : Rule) : List Char :=
  rule.name.display ++ ' ' :: rule.trigger.type.display ++ ' ' ::
    (rule.trigger.params.orElse (.obj [])).print Json.spaced

/-- A rule with nothing but a name and parameters of its trigger. -/
def bareRule (name : List Char) (params : Json) : Rule :=
  ⟨.null, .str (String.ofList name), .bool true, ⟨.str "", params, .null⟩, []⟩

/-- What follows the name of a bare rule without parameters: an empty trigger type and an empty
object. -/
def emptyTail : List Char :=
  [' ', ' ', '\x7b', '\x7d']

variable {rule : Rule} {text : List Char}

/-! ## Searching as a relation between texts -/

theorem occursIn_iff {needle text : List Char} :
    Text.occursIn needle text = true ↔ needle <:+: text := by
  induction text with
  | nil => simp [Text.occursIn]
  | cons character rest ih =>
      rw [Text.occursIn, Bool.or_eq_true, ih, List.isPrefixOf_iff_prefix, List.infix_cons_iff]

theorem searchableText_eq (rule : Rule) : searchableText rule = Text.lower rule.searchedText := rfl

theorem needleOf_str (text : List Char) :
    needleOf (.str (String.ofList text)) = Text.lower (Text.trim text) := by
  rw [needleOf, Json.trimmedText_str, String.toList_ofList]

theorem keepsSearch_iff :
    keepsSearch (.str (String.ofList text)) rule = true ↔
      Text.lower (Text.trim text) <:+: Text.lower rule.searchedText := by
  rw [keepsSearch, needleOf_str, Bool.or_eq_true, List.isEmpty_iff, occursIn_iff,
    searchableText_eq]
  constructor
  · rintro (blank | found)
    · rw [blank]
      exact List.nil_infix
    · exact found
  · exact Or.inr

theorem isFoundBy_iff :
    rule.IsFoundBy text ↔ Text.lower (Text.trim text) <:+: Text.lower rule.searchedText := by
  have kept (rules : List Rule) :
      filterRules rules (.str "all") (.str "all") (.str (String.ofList text)) =
        .ok (rules.filter (keepsSearch (.str (String.ofList text)))) := by
    let query : Query := ⟨.str "all", .str "all", .str (String.ofList text)⟩
    have known : query.status ∈ Query.statuses := List.mem_cons_self
    have same : query.keeps = keepsSearch (.str (String.ofList text)) := by
      funext rule
      rw [Query.keeps_all, Query.keepsTrigger_all, Bool.true_and]
    rw [← same]
    exact Query.run_of_known known rules
  rw [← keepsSearch_iff]
  constructor
  · intro found
    rcases found [rule] List.mem_cons_self with ⟨list, filtered, mem⟩
    cases (kept [rule]).symm.trans filtered
    exact (List.mem_filter.mp mem).2
  · intro keeps rules mem
    exact ⟨_, kept rules, List.mem_filter.mpr ⟨mem, keeps⟩⟩

/-- Letter case and surrounding blanks do not matter. -/
theorem isFoundBy_lower : rule.IsFoundBy (Text.lower text) ↔ rule.IsFoundBy text := by
  rw [isFoundBy_iff, isFoundBy_iff, Text.trim_lower, Text.lower_lower]

/-! ## Parameters that count as nothing -/

/-- A zero is written without its exponent. -/
theorem print_zero (layout : Json.Layout) (negative : Bool) (exponent : Int) :
    (Json.real (.finite negative 0 exponent)).print layout =
      if negative then ['-', '0', '.', '0'] else ['0', '.', '0'] := by
  cases negative <;> rfl

/-- Given parameters other than the empty object count as nothing only if they have one of the six
texts. -/
theorem exists_emptyParams {params : Json} (given : params ≠ .null) (notObject : params ≠ .obj [])
    (empty : params.isTruthy = false) :
    ∃ listed ∈ emptyParams, params.print Json.spaced = listed.print Json.spaced := by
  cases params with
  | null => exact absurd rfl given
  | bool value =>
      cases value with
      | false => exact ⟨.bool false, by simp [emptyParams], rfl⟩
      | true => cases empty
  | int value =>
      have zero : value = 0 := by simpa [Json.isTruthy] using empty
      exact ⟨.int 0, by simp [emptyParams], by rw [zero]⟩
  | real value =>
      cases value with
      | finite negative significand exponent =>
          have zero : significand = 0 := by simpa [Json.isTruthy, Binary64.isZero] using empty
          subst zero
          refine ⟨.real (.signedZero negative), ?_, ?_⟩
          · cases negative <;> simp [emptyParams]
          · rw [Binary64.signedZero, print_zero, print_zero]
      | infinity negative => cases empty
      | undefined => cases empty
  | str value =>
      have blank : value = "" := by simpa [Json.isTruthy] using empty
      exact ⟨.str "", by simp [emptyParams], by rw [blank]⟩
  | arr items =>
      have none : items = [] := by simpa [Json.isTruthy] using empty
      exact ⟨.arr [], by simp [emptyParams], by rw [none]⟩
  | obj fields =>
      have none : fields = [] := by simpa [Json.isTruthy] using empty
      exact absurd (congrArg Json.obj none) notObject

/-- Only parts of parameters that count as nothing are contained without being searched. -/
theorem infix_searchedText (contained : rule.Contains text) (proper : ¬IsPartOfEmptyParams text) :
    text <:+: rule.searchedText := by
  rw [Rule.searchedText, List.append_assoc]
  rcases contained with inName | inType | inParams
  · exact inName.trans (List.prefix_append ..).isInfix
  · refine inType.trans ⟨rule.name.display ++ [' '],
      ' ' :: (rule.trigger.params.orElse (.obj [])).print Json.spaced, ?_⟩
    simp
  · have searched : text <:+: (rule.trigger.params.orElse (.obj [])).print Json.spaced := by
      rw [Rule.paramsText] at inParams
      rw [Json.orElse]
      split at inParams
      · next absent =>
        rw [absent]
        exact inParams
      · next given =>
        split
        · exact inParams
        · next empty =>
          by_cases object : rule.trigger.params = .obj []
          · rwa [← object]
          · rcases exists_emptyParams given object (by simpa using empty) with ⟨listed, mem, same⟩
            have nothing : text = [] := by
              by_contra filled
              exact proper ⟨filled, listed, mem, same ▸ inParams⟩
            rw [nothing]
            exact List.nil_infix
    refine searched.trans ⟨rule.name.display ++ ' ' :: (rule.trigger.type.display ++ [' ']), [], ?_⟩
    simp

theorem searchedText_bareRule (name : List Char) {params : Json} (empty : params.isTruthy = false) :
    (bareRule name params).searchedText = name ++ emptyTail := by
  have nothing : params.orElse (.obj []) = .obj [] := by simp [Json.orElse, empty]
  simp only [Rule.searchedText, bareRule, nothing, Json.display, String.toList_ofList,
    List.append_assoc]
  rfl

theorem contains_bareRule {name : List Char} (params : Json) (inName : text <:+: name) :
    (bareRule name params).Contains text := by
  left
  rwa [bareRule, Json.display, String.toList_ofList]

/-- The character is kept by trimming and by lower case and does not occur behind a name. -/
def isKeptApart (character : Char) : Bool :=
  !Text.isBlank character && Text.lowerChar character == [character] &&
    !(Text.lower emptyTail).contains character

theorem isKeptApart_of_emptyParams : ∀ params ∈ emptyParams, params.isTruthy = false ∧
    params ≠ .null ∧ (params.print Json.spaced).all isKeptApart = true := by
  decide +kernel

theorem not_isFoundBy_of_isPartOfEmptyParams (part : IsPartOfEmptyParams text) :
    ∃ rule : Rule, rule.Contains text ∧ ¬rule.IsFoundBy text := by
  rcases part with ⟨filled, params, mem, within⟩
  rcases isKeptApart_of_emptyParams params mem with ⟨empty, given, apart⟩
  have plain : ∀ character ∈ text, Text.isBlank character = false ∧
      Text.lowerChar character = [character] ∧ character ∉ Text.lower emptyTail := by
    intro character inText
    have kept := List.all_eq_true.mp apart character (within.subset inText)
    simpa [isKeptApart, and_assoc] using kept
  refine ⟨bareRule [] params, ?_, ?_⟩
  · right; right
    rwa [bareRule, Rule.paramsText, if_neg given]
  · rw [isFoundBy_iff, searchedText_bareRule [] empty, List.nil_append]
    intro found
    rcases List.exists_mem_of_ne_nil text filled with ⟨character, inText⟩
    rcases plain character inText with ⟨visible, -, absent⟩
    apply absent
    apply found.subset
    have kept : character ∈ Text.trim text := by
      rw [← List.count_pos_iff, Text.count_trim visible]
      exact List.count_pos_iff.mpr inText
    have fixed : ∀ other ∈ Text.trim text, Text.lowerChar other = [other] := by
      intro other inTrimmed
      exact (plain other ((Text.trim_sublist text).subset inTrimmed)).2.1
    rwa [Text.lower, Text.lowerAfter_of_fixed fixed]

/-! ## Open sigmas -/

/-- A letter behind or in front of the name of a bare rule stays as it is, and so does all that
follows the name. -/
theorem lowerChar_emptyTail :
    ∀ character ∈ 'a' :: emptyTail, Text.lowerChar character = [character] := by
  have same : (('a' :: emptyTail).all fun character => Text.lowerChar character == [character]) =
      true := by decide +kernel
  simpa [List.all_eq_true] using same

theorem not_isFoundBy_of_hasOpenSigma (opened : Text.hasOpenSigma text = true) :
    ∃ rule : Rule, rule.Contains text ∧ ¬rule.IsFoundBy text := by
  rw [Text.hasOpenSigma, Bool.or_eq_true] at opened
  rcases opened with inFront | behind
  · refine ⟨bareRule (['a'] ++ text) .null,
      contains_bareRule .null (List.suffix_append ..).isInfix, ?_⟩
    rw [isFoundBy_iff, searchedText_bareRule _ rfl]
    exact Text.not_infix_behind_letter inFront (by decide +kernel) lowerChar_emptyTail (by decide)
  · refine ⟨bareRule (text ++ ['a']) .null,
      contains_bareRule .null (List.prefix_append ..).isInfix, ?_⟩
    rw [isFoundBy_iff, searchedText_bareRule _ rfl, List.append_assoc]
    exact Text.not_infix_before_letter behind lowerChar_emptyTail (by decide)

/-! ## Texts that are always found -/

theorem isFoundBy_of_contains (closed : Text.hasOpenSigma text = false)
    (proper : ¬IsPartOfEmptyParams text) (contained : rule.Contains text) : rule.IsFoundBy text := by
  have within := Text.lower_infix_lower closed (infix_searchedText contained proper)
  have trimmed : Text.trim (Text.lower text) <:+: Text.lower text := by
    rcases Text.exists_eq_append_trim (Text.lower text) with ⟨front, back, -, -, whole⟩
    exact ⟨front, back, whole.symm⟩
  rw [isFoundBy_iff, ← Text.trim_lower]
  exact trimmed.trans within

/-- A search finds its text in every rule that contains it, in lower case as well, exactly if no
capital sigma of the text is open and the text is not a part of parameters that count as nothing. -/
theorem searchFinds_iff (text : List Char) :
    SearchFinds text ↔ Text.hasOpenSigma text = false ∧ ¬IsPartOfEmptyParams text := by
  constructor
  · intro finds
    constructor
    · rw [← Bool.not_eq_true]
      intro opened
      rcases not_isFoundBy_of_hasOpenSigma opened with ⟨rule, contained, missed⟩
      exact missed (finds rule contained).1
    · intro part
      rcases not_isFoundBy_of_isPartOfEmptyParams part with ⟨rule, contained, missed⟩
      exact missed (finds rule contained).1
  · rintro ⟨closed, proper⟩ rule contained
    have found := isFoundBy_of_contains closed proper contained
    exact ⟨found, isFoundBy_lower.mpr found⟩

/-- The sigma of the searched text is its last letter, in the name it stands in the middle. -/
theorem not_searchFinds_openSigma :
    let rule := bareRule "ΠΡΟΣΦΟΡΑ".toList .null
    rule.Contains "ΠΡΟΣ".toList ∧
      filterRules [rule] (.str "all") (.str "all") (.str "ΠΡΟΣ") = .ok [] ∧
      ¬SearchFinds "ΠΡΟΣ".toList := by
  intro rule
  have contained : rule.Contains "ΠΡΟΣ".toList := by decide +kernel
  have missed : filterRules [rule] (.str "all") (.str "all") (.str "ΠΡΟΣ") = .ok [] := by
    decide +kernel
  refine ⟨contained, missed, ?_⟩
  intro finds
  rcases (finds rule contained).1 [rule] List.mem_cons_self with ⟨kept, found, mem⟩
  rw [String.ofList_toList, missed] at found
  cases found
  cases mem

end Rulebook
