import Rulebook.Json.Basic

/-!
# Equality up to representation

Two payloads that a backend cannot tell apart are equal in this sense: numbers are compared by
value, truth values count as one and zero, and the order of the fields of an object does not
matter. The undefined number is equal to nothing, itself included.
-/

namespace Rulebook.Json

/-- The number that a value counts as: a truth value is one or zero, and a real number without a
fraction is whole. -/
def number? : Json → Option (Int ⊕ Binary64)
  | bool value => some (.inl (if value then 1 else 0))
  | int value => some (.inl value)
  | real value => some (match value.toInt? with
      | some whole => .inl whole
      | none => .inr value)
  | _ => none

/-- Both values count as the same number. -/
def sameNumber (left right : Json) : Bool :=
  match left.number?, right.number? with
  | some (.inl a), some (.inl b) => a == b
  | some (.inr a), some (.inr b) => a.sameValue b
  | _, _ => false

mutual

/-- The values are equal up to representation. -/
def agrees : Json → Json → Bool
  | null, null => true
  | str a, str b => a == b
  | arr a, arr b => itemsAgree a b
  | obj a, obj b => a.length == b.length && fieldsAgree a b
  | bool a, right => sameNumber (bool a) right
  | int a, right => sameNumber (int a) right
  | real a, right => sameNumber (real a) right
  | _, _ => false
termination_by structural left => left

/-- The items agree one by one. -/
def itemsAgree : List Json → List Json → Bool
  | [], [] => true
  | a :: left, b :: right => a.agrees b && itemsAgree left right
  | _, _ => false
termination_by structural left => left

/-- Every field on the left has an agreeing field of the same name on the right. -/
def fieldsAgree : List (String × Json) → Fields → Bool
  | [], _ => true
  | (name, a) :: left, right =>
      (match right.get? name with
        | some b => a.agrees b
        | none => false) && fieldsAgree left right
termination_by structural left => left

end

end Rulebook.Json
