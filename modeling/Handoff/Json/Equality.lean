import Handoff.Json.Value
import Handoff.Number.Dyadic

/-! # Equal values

Two values are the same when they spell the same thing: a whole number equals a double of that
value, a truth value counts as one or zero, and the order of an object's keys does not matter.
-/

namespace Handoff.Json

/-- Whether a double is exactly a whole number. -/
def sameAsInt (n : Int) (x : Float) : Bool :=
  match Binary64.ofFloat x with
  | .finite value =>
    value.numerator == n.natAbs * value.denominator &&
      (value.mantissa == 0 || value.negative == decide (n < 0))
  | _ => false

def sameNumber : Int ⊕ Float → Int ⊕ Float → Bool
  | .inl m, .inl n => m == n
  | .inl m, .inr y => sameAsInt m y
  | .inr x, .inl n => sameAsInt n x
  | .inr x, .inr y => x == y

def sameScalar : Json → Json → Bool
  | .null, .null => true
  | .string s, .string t => s == t
  | a, b =>
    match a.exactNumber?, b.exactNumber? with
    | some m, some n => sameNumber m n
    | _, _ => false

mutual

def same : Json → Json → Bool
  | .list items, .list others => sameItems items others
  | .object fields, .object others =>
    fields.length == others.length && sameFields fields others
  | .null, other => sameScalar .null other
  | .bool value, other => sameScalar (.bool value) other
  | .int value, other => sameScalar (.int value) other
  | .float value, other => sameScalar (.float value) other
  | .string value, other => sameScalar (.string value) other
  | _, _ => false
termination_by structural value => value

def sameItems : List Json → List Json → Bool
  | [], [] => true
  | item :: rest, other :: others => item.same other && sameItems rest others
  | _, _ => false
termination_by structural items => items

def sameFields : List (String × Json) → List (String × Json) → Bool
  | [], _ => true
  | (key, value) :: rest, others =>
    (match others.lookup key with
      | some other => value.same other
      | none => false) && sameFields rest others
termination_by structural fields => fields

end

end Handoff.Json
