import Mathlib
import Rulebook.Proofs.Text.LowerCase

/-!
# Lower case in its surroundings

The lower case of a text does not depend on what stands around it, except for its capital sigmas. A
sigma takes its final form behind a letter and not in front of one, where characters that are
neither letters nor word ends are passed over. So the form of a sigma is *open* as long as a letter
that is put in front of the text or behind it can change it, and a text without open sigmas has the
same lower case everywhere. An open sigma is changed by one letter in front or behind, and then all
sigmas that change take the same one of the two forms.
-/

namespace Rulebook.Text

/-- Whether the first character that is not passed over is a letter; nothing if all are passed
over. -/
def lead? : List Char → Option Bool
  | [] => none
  | character :: rest =>
      if inRanges caseIgnorableRanges character.toNat then lead? rest
      else some (inRanges casedRanges character.toNat)

/-- The lower case of a capital sigma behind `before`, which is given in reverse, and in front of
`after`. -/
def sigmaForm (before after : List Char) : Char :=
  if meetsLetter before && !meetsLetter after then 'ς' else 'σ'

/-- The lower case of a text behind `before`, which is given in reverse, and in front of `after`. -/
def lowerWithin (before after : List Char) : List Char → List Char
  | [] => []
  | character :: rest =>
      (if character = 'Σ' then [sigmaForm before (rest ++ after)] else lowerChar character) ++
        lowerWithin (character :: before) after rest

/-- Some capital sigma of a text stands between characters with a given property. Those in front of
the text are given in reverse. -/
def anySigma (property : List Char → List Char → Bool) (before : List Char) : List Char → Bool
  | [] => false
  | character :: rest =>
      (character == 'Σ' && property before rest) || anySigma property (character :: before) rest

/-- A letter in front of the text would make the sigma final. -/
def isOpenInFront (before after : List Char) : Bool :=
  lead? before == none && lead? after != some true

/-- A letter behind the text would make the sigma one that is not final. -/
def isOpenBehind (before after : List Char) : Bool :=
  lead? before == some true && lead? after == none

/-- The text has a capital sigma whose form depends on what stands around the text. -/
def hasOpenSigma (text : List Char) : Bool :=
  anySigma isOpenInFront [] text || anySigma isOpenBehind [] text

/-! ## The form of a sigma -/

theorem meetsLetter_eq (text : List Char) : meetsLetter text = (lead? text).getD false := by
  induction text with
  | nil => rfl
  | cons character rest ih =>
      rw [meetsLetter, lead?]
      split
      · exact ih
      · rfl

theorem lead?_append (front text : List Char) :
    lead? (front ++ text) = (lead? front).or (lead? text) := by
  induction front with
  | nil => simp [lead?]
  | cons character rest ih =>
      simp only [List.cons_append, lead?]
      split
      · exact ih
      · rfl

theorem sigmaForm_append (before outer inner after : List Char) :
    sigmaForm (before ++ outer) (inner ++ after) =
      if ((lead? before).or (lead? outer)).getD false && !((lead? inner).or (lead? after)).getD false
        then 'ς' else 'σ' := by
  simp only [sigmaForm, meetsLetter_eq, lead?_append]

theorem sigmaForm_eq (before after : List Char) :
    sigmaForm before after =
      if (lead? before).getD false && !(lead? after).getD false then 'ς' else 'σ' := by
  simp only [sigmaForm, meetsLetter_eq]

/-- What stands around a text makes no difference to a sigma in it that is not open. -/
theorem sigmaForm_of_closed {before inner : List Char} (inFront : isOpenInFront before inner = false)
    (behind : isOpenBehind before inner = false) (outer after : List Char) :
    sigmaForm (before ++ outer) (inner ++ after) = sigmaForm before inner := by
  rw [sigmaForm_append, sigmaForm_eq]
  simp only [isOpenInFront, isOpenBehind] at inFront behind
  generalize lead? before = first at *
  generalize lead? inner = second at *
  generalize lead? outer = outside at *
  generalize lead? after = beyond at *
  revert first second outside beyond
  decide

/-- Where neither side has a letter next to the text, the form is that of the text alone. -/
theorem sigmaForm_of_noLetters {outer after : List Char} (inFront : lead? outer ≠ some true)
    (behind : lead? after ≠ some true) (before inner : List Char) :
    sigmaForm (before ++ outer) (inner ++ after) = sigmaForm before inner := by
  have alone (lead : Option Bool) {other : Option Bool} (noLetter : other ≠ some true) :
      (lead.or other).getD false = lead.getD false := by
    rcases lead with _ | _
    · rcases other with _ | _ | _
      · rfl
      · rfl
      · exact absurd rfl noLetter
    · rfl
  rw [sigmaForm_append, sigmaForm_eq, alone _ inFront, alone _ behind]

/-! ## Texts in their surroundings -/

theorem lowerAfter_append (before text after : List Char) :
    lowerAfter before (text ++ after) =
      lowerWithin before after text ++ lowerAfter (text.reverse ++ before) after := by
  induction text generalizing before with
  | nil => rfl
  | cons character rest ih =>
      rw [List.cons_append, lowerAfter, lowerWithin, ih]
      simp [sigmaForm]

theorem lower_eq (text : List Char) : lower text = lowerWithin [] [] text := by
  have alone := lowerAfter_append [] text []
  rwa [List.append_nil, lowerAfter, List.append_nil] at alone

theorem lower_append (front text back : List Char) :
    lower (front ++ text ++ back) = lowerWithin [] (text ++ back) front ++
      (lowerWithin front.reverse back text ++ lowerAfter (text.reverse ++ front.reverse) back) := by
  rw [lower, List.append_assoc, lowerAfter_append, lowerAfter_append, List.append_nil]

/-- Surroundings that change no sigma of a text change nothing. -/
theorem lowerWithin_of_same {outer after before text : List Char}
    (same : anySigma (fun before inner =>
      sigmaForm (before ++ outer) (inner ++ after) != sigmaForm before inner) before text = false) :
    lowerWithin (before ++ outer) after text = lowerWithin before [] text := by
  induction text generalizing before with
  | nil => rfl
  | cons character rest ih =>
      simp only [anySigma, Bool.or_eq_false_iff, Bool.and_eq_false_iff, beq_eq_false_iff_ne,
        bne_eq_false_iff_eq] at same
      have later := ih same.2
      rw [List.cons_append] at later
      rw [lowerWithin, lowerWithin, later, List.append_nil]
      rcases same.1 with other | form
      · rw [if_neg other, if_neg other]
      · rw [form]

theorem anySigma_or (left right : List Char → List Char → Bool) (before text : List Char) :
    anySigma (fun before after => left before after || right before after) before text =
      (anySigma left before text || anySigma right before text) := by
  induction text generalizing before with
  | nil => rfl
  | cons character rest ih =>
      simp only [anySigma, ih, Bool.and_or_distrib_left]
      ac_rfl

theorem anySigma_mono {left right : List Char → List Char → Bool}
    (implies : ∀ before after, left before after = true → right before after = true)
    {before text : List Char} (found : anySigma left before text = true) :
    anySigma right before text = true := by
  induction text generalizing before with
  | nil => cases found
  | cons character rest ih =>
      simp only [anySigma, Bool.or_eq_true, Bool.and_eq_true] at found ⊢
      rcases found with ⟨sigma, here⟩ | later
      · exact Or.inl ⟨sigma, implies before rest here⟩
      · exact Or.inr (ih later)

theorem anySigma_eq_false {property : List Char → List Char → Bool}
    (never : ∀ before after, property before after = false) (before text : List Char) :
    anySigma property before text = false := by
  induction text generalizing before with
  | nil => rfl
  | cons character rest ih => simp [anySigma, never, ih]

/-- A text without open sigmas has the same lower case wherever it stands. -/
theorem lowerWithin_of_closed {text : List Char} (closed : hasOpenSigma text = false)
    (outer after : List Char) : lowerWithin outer after text = lower text := by
  rw [lower_eq, ← List.nil_append outer]
  apply lowerWithin_of_same
  rw [← Bool.not_eq_true]
  intro changed
  rw [hasOpenSigma, ← anySigma_or, ← Bool.not_eq_true] at closed
  apply closed
  refine anySigma_mono ?_ changed
  intro before inner different
  by_contra neither
  simp only [Bool.or_eq_true, not_or, Bool.not_eq_true] at neither
  rw [sigmaForm_of_closed neither.1 neither.2] at different
  simp at different

/-- A text without open sigmas is found in lower case wherever it was found. -/
theorem lower_infix_lower {text whole : List Char} (closed : hasOpenSigma text = false)
    (found : text <:+: whole) : lower text <:+: lower whole := by
  rcases found with ⟨front, back, rfl⟩
  rw [lower_append, lowerWithin_of_closed closed front.reverse back]
  exact ⟨_, _, List.append_assoc _ _ _⟩

/-! ## Open sigmas -/

section Counts

variable {form : Char} {outer after : List Char}

/-- If the surroundings give no further sigma a form, then there are no more characters of this form
than in the text alone. -/
theorem count_lowerWithin_le
    (oneWay : ∀ before inner, sigmaForm (before ++ outer) (inner ++ after) = form →
      sigmaForm before inner = form) (before text : List Char) :
    (lowerWithin (before ++ outer) after text).count form ≤
      (lowerWithin before [] text).count form := by
  induction text generalizing before with
  | nil => exact le_rfl
  | cons character rest ih =>
      have later := ih (character :: before)
      rw [List.cons_append] at later
      simp only [lowerWithin, List.count_append, List.append_nil]
      apply Nat.add_le_add _ later
      split
      · have here := oneWay before rest
        simp only [List.count_singleton, beq_iff_eq]
        split
        · next same => rw [if_pos (here same)]
        · exact Nat.zero_le _
      · exact le_rfl

/-- If they take the form away from one of the sigmas, then there are less. -/
theorem count_lowerWithin_lt
    (oneWay : ∀ before inner, sigmaForm (before ++ outer) (inner ++ after) = form →
      sigmaForm before inner = form) {before text : List Char}
    (changed : anySigma (fun before inner => sigmaForm before inner == form &&
      sigmaForm (before ++ outer) (inner ++ after) != form) before text = true) :
    (lowerWithin (before ++ outer) after text).count form <
      (lowerWithin before [] text).count form := by
  induction text generalizing before with
  | nil => cases changed
  | cons character rest ih =>
      have notMore := count_lowerWithin_le oneWay (character :: before) rest
      have fewer := @ih (character :: before)
      have here := oneWay before rest
      rw [List.cons_append] at notMore fewer
      simp only [anySigma, Bool.or_eq_true, Bool.and_eq_true, beq_iff_eq, bne_iff_ne] at changed
      simp only [lowerWithin, List.count_append, List.append_nil]
      rcases changed with ⟨sigma, alone, around⟩ | changed
      · rw [if_pos sigma, if_pos sigma, List.count_singleton, List.count_singleton,
          if_neg (by simpa using around), if_pos (by simpa using alone)]
        omega
      · have less := fewer changed
        split
        · simp only [List.count_singleton, beq_iff_eq]
          split
          · next same =>
            rw [if_pos (here same)]
            omega
          · omega
        · omega

end Counts

/-! ## Lower case once more -/

theorem lowerWithin_of_fixed {text : List Char} (fixed : ∀ character ∈ text,
    lowerChar character = [character]) (before after : List Char) :
    lowerWithin before after text = text := by
  induction text generalizing before with
  | nil => rfl
  | cons character rest ih =>
      rw [List.forall_mem_cons] at fixed
      have notSigma : character ≠ 'Σ' := by
        rintro rfl
        exact absurd fixed.1 (by decide +kernel)
      rw [lowerWithin, if_neg notSigma, fixed.1, ih fixed.2]
      rfl

/-- A text whose characters are their own lower case is its own lower case. -/
theorem lowerAfter_of_fixed {text : List Char} (fixed : ∀ character ∈ text,
    lowerChar character = [character]) (before : List Char) : lowerAfter before text = text := by
  have alone := lowerAfter_append before text []
  rwa [List.append_nil, lowerAfter, List.append_nil, lowerWithin_of_fixed fixed] at alone

theorem lowerChar_of_mem_lowerAfter {before text : List Char} {character : Char}
    (mem : character ∈ lowerAfter before text) : lowerChar character = [character] := by
  induction text generalizing before with
  | nil => cases mem
  | cons first rest ih =>
      rw [lowerAfter, List.mem_append] at mem
      rcases mem with here | later
      · split at here
        · rw [List.mem_singleton] at here
          subst here
          split <;> decide +kernel
        · exact lowerChar_of_mem_lowerChar here
      · exact ih later

@[simp]
theorem lower_lower (text : List Char) : lower (lower text) = lower text :=
  lowerAfter_of_fixed (fun _ => lowerChar_of_mem_lowerAfter) []

/-! ## Blanks around a text -/

theorem lead?_of_isBlank {text : List Char} (blank : ∀ character ∈ text, isBlank character = true) :
    lead? text ≠ some true := by
  cases text with
  | nil => simp [lead?]
  | cons character rest =>
      have here := blank character List.mem_cons_self
      simp [lead?, inRanges_of_isBlank blanks_apart.1 here, inRanges_of_isBlank blanks_apart.2 here]

theorem lowerChar_of_isBlanks {text : List Char}
    (blank : ∀ character ∈ text, isBlank character = true) :
    ∀ character ∈ text, lowerChar character = [character] :=
  fun character mem => lowerChar_of_isBlank (blank character mem)

/-- Blanks around a text are no letters next to it. -/
theorem lower_of_isBlank {front back : List Char}
    (blankFront : ∀ character ∈ front, isBlank character = true)
    (blankBack : ∀ character ∈ back, isBlank character = true) (text : List Char) :
    lower (front ++ text ++ back) = front ++ lower text ++ back := by
  have noLetter : lead? front.reverse ≠ some true :=
    lead?_of_isBlank fun character mem => blankFront character (List.mem_reverse.mp mem)
  have same : lowerWithin front.reverse back text = lower text := by
    rw [lower_eq, ← List.nil_append front.reverse]
    apply lowerWithin_of_same
    apply anySigma_eq_false
    intro before inner
    rw [sigmaForm_of_noLetters noLetter (lead?_of_isBlank blankBack), bne_self_eq_false]
  rw [lower_append, same, lowerWithin_of_fixed (lowerChar_of_isBlanks blankFront),
    lowerAfter_of_fixed (lowerChar_of_isBlanks blankBack), List.append_assoc]

/-- A visible character becomes visible characters. -/
theorem lowerWithin_of_visible {character : Char} (visible : isBlank character = false)
    (before after : List Char) :
    lowerWithin before after [character] ≠ [] ∧
      ∀ lowered ∈ lowerWithin before after [character], isBlank lowered = false := by
  simp only [lowerWithin, List.append_nil]
  split
  · refine ⟨List.cons_ne_nil _ _, ?_⟩
    intro lowered mem
    rw [List.mem_singleton, sigmaForm] at mem
    subst mem
    split <;> decide
  · exact ⟨lowerChar_ne_nil character, fun _ => isBlank_of_mem_lowerChar visible⟩

theorem noBlankHead_lower {text : List Char} (head : NoBlankHead text) :
    NoBlankHead (lower text) := by
  cases text with
  | nil => exact head
  | cons first rest =>
      have visible := lowerWithin_of_visible (head first rest rfl) [] rest
      rw [lower, ← List.singleton_append, lowerAfter_append]
      refine NoBlankHead.append ?_ visible.1
      intro character more split
      exact visible.2 character (split ▸ List.mem_cons_self)

theorem noBlankLast_lower {text : List Char} (last : NoBlankLast text) :
    NoBlankLast (lower text) := by
  rcases List.eq_nil_or_concat' text with rfl | ⟨rest, final, rfl⟩
  · exact last
  · have visible := lowerWithin_of_visible (last rest final rfl) rest.reverse []
    have alone := lowerAfter_append rest.reverse [final] []
    rw [List.append_nil, lowerAfter, List.append_nil] at alone
    rw [lower, lowerAfter_append, List.append_nil, alone]
    refine NoBlankLast.append ?_ visible.1
    intro more character split
    exact visible.2 character (split ▸ List.mem_append_right more List.mem_cons_self)

theorem trim_lower (text : List Char) : trim (lower text) = lower (trim text) := by
  rcases exists_eq_append_trim text with ⟨front, back, blankFront, blankBack, whole⟩
  have lowered := lower_of_isBlank blankFront blankBack (trim text)
  rw [← whole] at lowered
  rw [lowered, trim_append_of_isBlank _ blankBack, trim_of_isBlank_append _ blankFront]
  have ends := trim_eq_self_iff.mp (trim_trim text)
  exact trim_eq_self_iff.mpr ⟨noBlankHead_lower ends.1, noBlankLast_lower ends.2⟩

theorem count_trim {form : Char} (visible : isBlank form = false) (text : List Char) :
    (trim text).count form = text.count form := by
  rcases exists_eq_append_trim text with ⟨front, back, blankFront, blankBack, whole⟩
  have absent : ∀ blanks : List Char, (∀ character ∈ blanks, isBlank character = true) →
      blanks.count form = 0 := by
    intro blanks blank
    rw [List.count_eq_zero]
    intro mem
    rw [blank form mem] at visible
    cases visible
  conv_rhs => rw [whole, List.count_append, List.count_append, absent front blankFront,
    absent back blankBack, Nat.zero_add, Nat.add_zero]

/-! ## A letter next to an open sigma -/

/-- Surroundings that only take a form away from sigmas hide a text. -/
theorem not_infix_of_changed {form : Char} (visible : isBlank form = false)
    {front text back : List Char}
    (oneWay : ∀ before inner, sigmaForm (before ++ front.reverse) (inner ++ back) = form →
      sigmaForm before inner = form)
    (changed : anySigma (fun before inner => sigmaForm before inner == form &&
      sigmaForm (before ++ front.reverse) (inner ++ back) != form) [] text = true)
    (fixed : ∀ character ∈ front ++ back, lowerChar character = [character])
    (absent : form ∉ front ++ back) :
    ¬lower (trim text) <:+: lower (front ++ text ++ back) := by
  intro found
  rw [List.forall_mem_append] at fixed
  rw [List.mem_append, not_or] at absent
  have fewer := count_lowerWithin_lt oneWay changed
  rw [List.nil_append, ← lower_eq] at fewer
  have most := found.sublist.count_le form
  rw [← trim_lower, count_trim visible, lower_append, lowerWithin_of_fixed fixed.1,
    lowerAfter_of_fixed fixed.2, List.count_append, List.count_append,
    List.count_eq_zero_of_not_mem absent.1, List.count_eq_zero_of_not_mem absent.2] at most
  omega

variable {text tail : List Char}

theorem lead?_letter (rest : List Char) : lead? ('a' :: rest) = some true := by
  have notPassedOver : inRanges caseIgnorableRanges 'a'.toNat = false := by decide +kernel
  have letter : inRanges casedRanges 'a'.toNat = true := by decide +kernel
  rw [lead?, notPassedOver, letter]
  rfl

/-- A letter in front of a text hides it, if one of its sigmas is open in front. -/
theorem not_infix_behind_letter (opened : anySigma isOpenInFront [] text = true)
    (ended : lead? tail = some false)
    (fixed : ∀ character ∈ 'a' :: tail, lowerChar character = [character])
    (absent : 'σ' ∉ 'a' :: tail) :
    ¬lower (trim text) <:+: lower (['a'] ++ text ++ tail) := by
  refine not_infix_of_changed (show isBlank 'σ' = false by decide) ?_ ?_ fixed absent
  · intro before inner
    rw [List.reverse_singleton, sigmaForm_append, sigmaForm_eq, lead?_letter, ended]
    rcases lead? before with _ | _ | _ <;> rcases lead? inner with _ | _ | _ <;> simp
  · refine anySigma_mono ?_ opened
    intro before inner
    rw [List.reverse_singleton, sigmaForm_append, sigmaForm_eq, lead?_letter, ended, isOpenInFront]
    rcases lead? before with _ | _ | _ <;> rcases lead? inner with _ | _ | _ <;> simp

/-- A letter behind a text hides it, if one of its sigmas is open behind. -/
theorem not_infix_before_letter (opened : anySigma isOpenBehind [] text = true)
    (fixed : ∀ character ∈ 'a' :: tail, lowerChar character = [character])
    (absent : 'ς' ∉ 'a' :: tail) :
    ¬lower (trim text) <:+: lower ([] ++ text ++ 'a' :: tail) := by
  refine not_infix_of_changed (show isBlank 'ς' = false by decide) ?_ ?_ fixed absent
  · intro before inner
    rw [List.reverse_nil, sigmaForm_append, sigmaForm_eq, lead?_letter]
    rcases lead? before with _ | _ | _ <;> rcases lead? inner with _ | _ | _ <;> simp [lead?]
  · refine anySigma_mono ?_ opened
    intro before inner
    rw [List.reverse_nil, sigmaForm_append, sigmaForm_eq, lead?_letter, isOpenBehind]
    rcases lead? before with _ | _ | _ <;> rcases lead? inner with _ | _ | _ <;> simp

end Rulebook.Text
