import Handoff.Entries

/-! # JSON values

Whole numbers and other numbers are kept apart, and an object keeps its keys in the order in which
they were first given, each key once.
-/

namespace Handoff

/-- A JSON value. -/
inductive Json where
  | null
  | bool (value : Bool)
  | int (value : Int)
  | float (value : Float)
  | string (value : String)
  | list (items : List Json)
  | object (fields : List (String × Json))
deriving Inhabited

namespace Json

abbrev Fields := Entries Json

def Fields.get? (fields : Fields) (key : String) : Option Json := fields.lookup key

/-- The fields with one value set: in place when the key is there, at the end when it is new. -/
def Fields.put (key : String) (value : Json) (fields : Fields) : Fields :=
  Entries.put key value fields

def Fields.erase (fields : Fields) (key : String) : Fields := fields.filter (·.1 != key)

/-- The value under a key of an object; `none` for a missing key and for any other value. -/
def get? (key : String) : Json → Option Json
  | .object fields => Fields.get? fields key
  | _ => none

/-- The value under a key of an object, or another value in its place. -/
def fieldOr (value : Json) (key : String) (other : Json) : Json := (value.get? key).getD other

def field (value : Json) (key : String) : Json := value.fieldOr key .null

def isObject : Json → Bool
  | .object _ => true
  | _ => false

def fields? : Json → Option Fields
  | .object fields => some fields
  | _ => none

def items? : Json → Option (List Json)
  | .list items => some items
  | _ => none

def string? : Json → Option String
  | .string s => some s
  | _ => none

/-- Whether a value counts as present: neither null, false, zero nor empty. -/
def isTruthy : Json → Bool
  | .null => false
  | .bool value => value
  | .int value => value != 0
  | .float value => value != 0
  | .string value => !value.isEmpty
  | .list items => !items.isEmpty
  | .object fields => !fields.isEmpty

/-- The number that a value counts as in comparisons: truth values count as one and zero. -/
def exactNumber? : Json → Option (Int ⊕ Float)
  | .bool value => some (.inl (if value then 1 else 0))
  | .int value => some (.inl value)
  | .float value => some (.inr value)
  | _ => none

end Json

end Handoff
