import Mathlib
import Rulebook.Number.Reading
import Rulebook.Proofs.Number.Rounding

/-!
# Numbers under one name

A finite binary number could be named by many significands and exponents, and is written and read
under one of them. Every number that comes of rounding is named so, and hence every number that is
read from a text or made of an integer.
-/

namespace Rulebook.Binary64

/-- If the number is finite, it has the one name under which it is read. -/
def IsProper (number : Binary64) : Prop :=
  number.isFinite = true → number.IsFiniteNumber

theorem isProper_infinity (negative : Bool) : (infinity negative).IsProper :=
  nofun

theorem isProper_undefined : undefined.IsProper :=
  nofun

theorem isProper_ofDecimal (negative : Bool) (digits : Nat) (power : Int) :
    (ofDecimal negative digits power).IsProper :=
  isFiniteNumber_ofDecimal

theorem isProper_ofInt (number : Int) : (ofInt number).IsProper :=
  isFiniteNumber_ofRatio Nat.one_pos

/-- What a text denotes as a number is proper, however its runs of digits are read. -/
theorem isProper_of_realBy? {run : List Char → List Nat × List Char} {text : List Char}
    {number : Binary64} (read : realBy? run text = some number) : number.IsProper := by
  rw [realBy?.eq_def] at read
  generalize Text.cutSign text = signed at read
  rcases signed with ⟨negative, unsigned⟩
  simp only at read
  split_ifs at read with isInfinity isUndefined
  · cases read
    exact isProper_infinity negative
  · cases read
    exact isProper_undefined
  · rcases Option.map_eq_some_iff.mp read with ⟨exponent, _, rfl⟩
    exact isProper_ofDecimal _ _ _

end Rulebook.Binary64
