import Mathlib
import Rulebook.Proofs.Http.Segments
import Rulebook.Service.Rules

/-!
# The routes of rules

The route of a rule is the route of all rules and one more segment, the id in escapes. So wherever
a rule has an address, the collection of rules has one, and the two are different addresses, except
for the id that is a lone dot: no escape protects a dot, and as a segment it names the collection.
-/

namespace Rulebook

namespace Text

theorem not_mem_percentEncode {separator : Char} (mem : separator ∈ ['/', '?'])
    (text : List Char) : separator ∉ percentEncode text := by
  intro escaped
  have apart := not_separator_of_mem_percentEncode escaped
  simp only [List.mem_cons, List.not_mem_nil, or_false] at mem
  rcases mem with rfl | rfl
  · exact apart.1 rfl
  · exact apart.2.1 rfl

/-- A text does not become shorter. -/
theorem length_le_percentEncode (text : List Char) : text.length ≤ (percentEncode text).length := by
  induction text with
  | nil => exact le_rfl
  | cons first rest ih =>
      have positive := List.length_pos_iff.mpr (escapeUnless_ne_nil isUnreserved first)
      rw [percentEncode] at ih
      rw [percentEncode, List.flatMap_cons, List.length_append, List.length_cons]
      omega

/-- Only a dot stands for a dot. -/
theorem percentEncode_eq_dot {text : List Char} (encoded : percentEncode text = ['.']) :
    text = ['.'] := by
  cases text with
  | nil => cases encoded
  | cons first rest =>
      rw [percentEncode, List.flatMap_cons, List.append_eq_singleton_iff] at encoded
      rcases encoded with ⟨nothing, _⟩ | ⟨dot, nothing⟩
      · exact absurd nothing (escapeUnless_ne_nil _ _)
      · have noMore : rest = [] := by
          cases rest with
          | nil => rfl
          | cons next more =>
              rw [List.flatMap_eq_nil_iff] at nothing
              exact absurd (nothing next (by simp)) (escapeUnless_ne_nil _ _)
        rw [escapeUnless] at dot
        split at dot
        · rw [noMore, List.singleton_inj.mp dot]
        · -- an escape begins with a percent sign
          cases bytes : utf8Char first with
          | nil =>
              rw [bytes] at dot
              cases dot
          | cons byte more =>
              rw [bytes, List.flatMap_cons, escapeByte] at dot
              cases dot

end Text

/-! ## Routes -/

theorem toList_rulesRoute :
    rulesRoute.toList = ['/', 'a', 'u', 't', 'o', 'm', 'a', 't', 'i', 'o', 'n', 's'] := by
  simp [rulesRoute]

theorem isRoute_rulesRoute : IsRoute rulesRoute.toList := by
  rw [toList_rulesRoute]
  refine ⟨⟨'a', _, rfl, by decide⟩, ?_⟩
  simp [IsRouteChar, Text.isUnreserved]

theorem ruleRoute_eq (id : Json) :
    ruleRoute id = rulesRoute ++ String.ofList ('/' :: Text.percentEncode id.display) := by
  unfold ruleRoute rulesRoute
  generalize Text.percentEncode id.display = segment
  simp [← String.toList_inj]

theorem isRoute_ruleRoute (id : Json) : IsRoute (ruleRoute id).toList := by
  rw [ruleRoute_eq, String.toList_append, String.toList_ofList]
  refine ⟨⟨'a', rulesRoute.toList.drop 2 ++ '/' :: Text.percentEncode id.display, ?_, by decide⟩, ?_⟩
  · rw [toList_rulesRoute]
    rfl
  intro character mem
  rcases List.mem_append.mp mem with inRoute | inSegment
  · exact isRoute_rulesRoute.chars character inRoute
  rcases List.mem_cons.mp inSegment with slash | inId
  · exact Or.inr (Or.inr slash)
  · rcases Text.of_mem_percentEncode inId with unreserved | percent
    · exact Or.inl unreserved
    · exact Or.inr (Or.inl percent)

namespace Client

variable {σ : Type} {client : Client σ} {id : Json} {url : Url}

/-- Where a rule has an address, the collection of rules has one. -/
theorem exists_address_rulesRoute (located : client.address (ruleRoute id) = .ok url) :
    ∃ other, client.address rulesRoute = .ok other := by
  have route := isRoute_ruleRoute id
  rw [ruleRoute_eq] at located route
  exact exists_address_of_append route isRoute_rulesRoute (by decide) located

/-- A rule whose id is too long has no address. -/
theorem address_ruleRoute_of_long (long : Url.maxLength ≤ id.display.length) :
    client.address (ruleRoute id) = .error (.invalidUrl "URL too long") := by
  have longRoute : Url.maxLength < (ruleRoute id).toList.length := by
    have longSegment := Text.length_le_percentEncode id.display
    rw [ruleRoute_eq, String.toList_append, String.toList_ofList, List.length_append,
      List.length_cons]
    omega
  rw [address, Url.parse_of_long longRoute]
  rfl

/-- A rule has an address of its own, unless its id is a lone dot. -/
theorem address_ruleRoute_ne (notDot : id.display ≠ ['.'])
    (located : client.address (ruleRoute id) = .ok url) : client.address rulesRoute ≠ .ok url := by
  intro collection
  rcases (address_eq_ok_iff (isRoute_ruleRoute id)).mp located with ⟨_, long, _⟩
  rcases (address_eq_ok_iff isRoute_rulesRoute).mp collection with ⟨_, short, _⟩
  rw [ruleRoute_eq, String.toList_append, String.toList_ofList,
    List.tail_append_of_ne_nil (by decide)] at long
  refine Url.withTarget_ne (by decide) ⟨'a', by decide, by decide⟩
    (Text.not_mem_percentEncode (by decide) id.display) ?_
    (fun dot => notDot (Text.percentEncode_eq_dot dot)) short long
  intro mem
  rcases List.mem_append.mp mem with inWord | inSegment
  · revert inWord
    decide
  · rcases List.mem_cons.mp inSegment with slash | inId
    · cases slash
    · exact Text.not_mem_percentEncode (by decide) id.display inId

end Client

end Rulebook
