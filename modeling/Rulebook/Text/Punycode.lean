/-!
# Punycode

A text of any characters is written with letters, digits and hyphens: first its characters in
ASCII, then, after a hyphen, where the others stand, as a sequence of numbers. The numbers are
written in base 36 with the least digit first; a threshold that depends on the place and on a bias
says which digit ends a number, and the bias follows the numbers that were written. The functions
work on code points.
-/

namespace Rulebook.Text.Punycode

/-- The least digit that does not end a number, at a place in it. -/
def threshold (place bias : Nat) : Nat :=
  min 26 (max 1 (36 * (place + 1) - bias))

theorem one_le_threshold (place bias : Nat) : 1 ≤ threshold place bias := by
  unfold threshold; omega

/-- The bias that a number leads to, after it is scaled. -/
def biasAfter (divisions delta : Nat) : Nat :=
  if 455 < delta then biasAfter (divisions + 36) (delta / 35)
  else divisions + 36 * delta / (delta + 38)
termination_by delta

/-- The bias after a number, given how many characters there are then. -/
def adapt (delta : Nat) (first : Bool) (count : Nat) : Nat :=
  let scaled := if first then delta / 700 else delta / 2
  biasAfter 0 (scaled + scaled / count)

/-- The code point of a digit in base 36. -/
def digit (value : Nat) : Nat :=
  if value < 26 then 0x61 + value else 0x30 + (value - 26)

/-- The value of a digit, in upper or lower case. -/
def digitValue? (code : Nat) : Option Nat :=
  if 0x61 ≤ code ∧ code ≤ 0x7A then some (code - 0x61)
  else if 0x41 ≤ code ∧ code ≤ 0x5A then some (code - 0x41)
  else if 0x30 ≤ code ∧ code ≤ 0x39 then some (code - 0x30 + 26)
  else none

/-- The digits of a number from a place on. -/
def number (bias place delta : Nat) : List Nat :=
  if delta < threshold place bias then [digit delta]
  else
    let left := delta - threshold place bias
    let base := 36 - threshold place bias
    digit (threshold place bias + left % base) :: number bias (place + 1) (left / base)
termination_by delta
decreasing_by
  have positive := one_le_threshold place bias
  exact Nat.lt_of_le_of_lt (Nat.div_le_self _ _) (by omega)

/-- What is known while a text is written: the numbers so far, the number being counted, the bias,
and how many characters are written. -/
structure State where
  digits : List Nat
  /-- The number being counted. -/
  delta : Nat
  bias : Nat
  /-- The characters that are written. -/
  count : Nat

/-- Looks at one character of the text while the occurrences of `code` are written. -/
def visit (plain code : Nat) (state : State) (other : Nat) : State :=
  if other < code then { state with delta := state.delta + 1 }
  else if other = code then
    { digits := state.digits ++ number state.bias 0 state.delta
      delta := 0
      bias := adapt state.delta (state.count == plain) (state.count + 1)
      count := state.count + 1 }
  else state

/-- Writes the occurrences of the code points in order. -/
def write (text : List Nat) (plain : Nat) : (next : Nat) → State → List Nat → State
  | _, state, [] => state
  | next, state, code :: rest =>
      let counted := { state with delta := state.delta + (code - next) * (state.count + 1) }
      let state := text.foldl (visit plain code) counted
      write text plain (code + 1) { state with delta := state.delta + 1 } rest

/-- The code points of a text that are not in ASCII, in order and each once. -/
def foreignCodes (text : List Nat) : List Nat :=
  ((text.filter (0x80 ≤ ·)).mergeSort (· ≤ ·)).eraseReps

/-- The code of a text. -/
def encode (text : List Nat) : List Nat :=
  let plain := text.filter (· < 0x80)
  let state := write text plain.length 0x80 ⟨[], 0, 72, plain.length⟩ (foreignCodes text)
  plain ++ (if plain.isEmpty then [] else [0x2D]) ++ state.digits

/-- Reads a number from a place on: the number and what follows it. -/
def readNumber? (bias : Nat) : (place weight value : Nat) → List Nat → Option (Nat × List Nat)
  | _, _, _, [] => none
  | place, weight, value, code :: rest =>
      match digitValue? code with
      | none => none
      | some digit =>
          let value := value + digit * weight
          if digit < threshold place bias then some (value, rest)
          else readNumber? bias (place + 1) (weight * (36 - threshold place bias)) value rest

theorem readNumber?_shorter {bias : Nat} (text : List Nat) :
    ∀ {place weight value read : Nat} {rest : List Nat},
      readNumber? bias place weight value text = some (read, rest) →
        rest.length < text.length := by
  induction text with
  | nil => intro _ _ _ _ _ found; simp [readNumber?] at found
  | cons code text shorter =>
      intro place weight value read rest found
      unfold readNumber? at found
      split at found
      · simp at found
      · split at found
        · simp only [Option.some.injEq, Prod.mk.injEq] at found
          simp [← found.2]
        · exact Nat.lt_succ_of_lt (shorter found)

/-- The part of a written form before its last hyphen, and the numbers after it. -/
def parts (written : List Nat) : List Nat × List Nat :=
  let digits := (written.reverse.takeWhile (· != 0x2D)).reverse
  (written.take (written.length - digits.length - 1), digits)

/-- Reads the numbers and puts the characters in their places. A code point beyond the last one
fails. -/
def insertAll (text : List Nat) (place code bias : Nat) (first : Bool) (digits : List Nat) :
    Option (List Nat) :=
  if digits.isEmpty then some text
  else match found : readNumber? bias 0 1 0 digits with
    | none => none
    | some (delta, rest) =>
        let count := text.length + 1
        let code := code + (place + delta) / count
        let position := (place + delta) % count
        if 0x10FFFF < code then none
        else insertAll (text.take position ++ code :: text.drop position) (position + 1) code
          (adapt delta first count) false rest
termination_by digits.length
decreasing_by exact readNumber?_shorter digits found

/-- The text of a written form, if it is one. -/
def decode? (written : List Nat) : Option (List Nat) :=
  let (plain, digits) := parts written
  insertAll plain 0 0x80 72 true digits

/-- Reads the numbers as far as they can be read. A question mark takes the place of a code point
beyond the last one. -/
def insertMost (text : List Nat) (place code bias : Nat) (first : Bool) (digits : List Nat) :
    List Nat :=
  match found : readNumber? bias 0 1 0 digits with
  | none => text
  | some (delta, rest) =>
      let count := text.length + 1
      let code := code + (place + delta) / count
      let code := if 0x10FFFF < code then 0x3F else code
      let position := (place + delta) % count
      insertMost (text.take position ++ code :: text.drop position) (position + 1) code
        (adapt delta first count) false rest
termination_by digits.length
decreasing_by exact readNumber?_shorter digits found

/-- The text of a written form as far as it can be read. -/
def decodeMost (written : List Nat) : List Nat :=
  let (plain, digits) := parts written
  insertMost plain 0 0x80 72 true digits

end Rulebook.Text.Punycode
