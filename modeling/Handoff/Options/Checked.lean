import Handoff.Json.Value
import Handoff.Number.Dyadic
import Handoff.Text.Blank

/-! # Checked fields

The fields of an object are read one after the other. A field that does not fit leaves a problem and
its default, so that one reading finds the problems of all fields, in the order of the fields.
-/

namespace Handoff

inductive ProblemKind where
  | missing
  | stringType
  | tooShort (least : Nat)
  | boolType
  | boolParsing
  | choice (names : List String)
  | group (name : String)
  | refused (reason : String)
deriving Repr, DecidableEq

namespace ProblemKind

def code : ProblemKind → String
  | missing => "missing"
  | stringType => "string_type"
  | tooShort _ => "string_too_short"
  | boolType => "bool_type"
  | boolParsing => "bool_parsing"
  | choice _ => "enum"
  | group _ => "model_type"
  | refused _ => "value_error"

/-- Quoted names, the last one set off by a word. -/
def choiceWords : List String → String
  | [] => ""
  | [last] => s!"'{last}'"
  | [name, last] => s!"'{name}' or '{last}'"
  | name :: rest => s!"'{name}', " ++ choiceWords rest

def message : ProblemKind → String
  | missing => "Field required"
  | stringType => "Input should be a valid string"
  | tooShort least => s!"String should have at least {least} characters"
  | boolType => "Input should be a valid boolean"
  | boolParsing => "Input should be a valid boolean, unable to interpret input"
  | choice names => "Input should be " ++ choiceWords names
  | group name => s!"Input should be a valid dictionary or instance of {name}"
  | refused reason => s!"Value error, {reason}"

end ProblemKind

/-- A problem, the keys that lead to its field, and what was found there. -/
structure Problem where
  path : List String
  kind : ProblemKind
  found : Json

/-- A value together with the problems found on the way to it. -/
structure Checked (α : Type) where
  value : α
  problems : List Problem

namespace Checked

instance : Monad Checked where
  pure value := ⟨value, []⟩
  bind first next := ⟨(next first.value).value, first.problems ++ (next first.value).problems⟩

def toExcept {α : Type} (checked : Checked α) : Except (List Problem) α :=
  if checked.problems.isEmpty then .ok checked.value else .error checked.problems

/-- The problems seen from a level above. -/
def under {α : Type} (key : String) (checked : Checked α) : Checked α :=
  ⟨checked.value, checked.problems.map fun p => { p with path := key :: p.path }⟩

end Checked

abbrev FieldReader (α : Type) := Json → Except ProblemKind α

namespace FieldReader

def truthWords : List (String × Bool) :=
  [("0", false), ("off", false), ("f", false), ("false", false), ("n", false), ("no", false),
   ("1", true), ("on", true), ("t", true), ("true", true), ("y", true), ("yes", true)]

/-- The least natural number that does not fit into 64 bits with a sign. -/
def wordBound : Int := 0x8000000000000000

/-- Whether a whole number fits into 64 bits. -/
def isSmall (n : Int) : Bool := -wordBound ≤ n && n < wordBound

/-- One and zero are truth values; other small numbers look like a broken one. -/
def truthOfInt (n : Int) : Except ProblemKind Bool :=
  if n == 0 then .ok false
  else if n == 1 then .ok true
  else .error .boolParsing

/-- A truth value, also given as one, zero or a word. -/
def bool : FieldReader Bool
  | .bool value => .ok value
  | .int n => if isSmall n then truthOfInt n else .error .boolType
  | .float x =>
    match Binary64.ofFloat x with
    | .finite value =>
      let n : Int := value.numerator / value.denominator
      if value.isWhole && n < wordBound then truthOfInt (if value.negative then -n else n)
      else .error .boolType
    | _ => .error .boolType
  | .string s =>
    match truthWords.lookup (String.ofList (s.toList.map Char.toLower)) with
    | some value => .ok value
    | none => .error .boolParsing
  | _ => .error .boolType

def choice {α : Type} (all : List α) (name : α → String) : FieldReader α
  | .string s =>
    match all.find? (name · == s) with
    | some value => .ok value
    | none => .error (.choice (all.map name))
  | _ => .error (.choice (all.map name))

def string : FieldReader String
  | .string s => .ok s
  | _ => .error .stringType

def trimmed : FieldReader String
  | .string s => .ok (String.ofList (Text.trimBlanks s.toList))
  | _ => .error .stringType

/-- A value that may be null. -/
def optional {α : Type} (reader : FieldReader α) : FieldReader (Option α)
  | .null => .ok none
  | value => (reader value).map some

end FieldReader

/-- The first of some keys that an object has, with its value. -/
def Json.firstField? (value : Json) (keys : List String) : Option (String × Json) :=
  keys.findSome? fun key => (value.get? key).map (key, ·)

def checkField {α : Type} (object : Json) (keys : List String) (default : α)
    (reader : FieldReader α) : Checked α :=
  match object.firstField? keys with
  | none => ⟨default, []⟩
  | some (key, value) =>
    match reader value with
    | .ok value => ⟨value, []⟩
    | .error kind => ⟨default, [⟨[key], kind, value⟩]⟩

/-- Reads a field that has to be there; without it, the object is what was found. -/
def checkRequired {α : Type} (object : Json) (key : String) (default : α)
    (reader : FieldReader α) : Checked α :=
  match object.get? key with
  | none => ⟨default, [⟨[key], .missing, object⟩]⟩
  | some _ => checkField object [key] default reader

def checkGroup {α : Type} (object : Json) (key name : String) (default : α)
    (fields : Json → Checked α) : Checked α :=
  match object.get? key with
  | none => ⟨default, []⟩
  | some value =>
    if value.isObject then (fields value).under key else ⟨default, [⟨[key], .group name, value⟩]⟩

end Handoff
