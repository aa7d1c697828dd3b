import Handoff.Generation.Result
import Handoff.Generation.Session

/-! # Waiting for the validation

A generation waits until all of its files are validated. Meanwhile other generations come and go,
and the validations end in any order; each result is kept at the place of its file.
-/

namespace Handoff

/-- What happens while a generation waits. -/
inductive Happening where
  /-- Another generation is registered. -/
  | registered (session : String)
  /-- Another generation is released. -/
  | released (session : String)
  /-- The validation of the file at a place ends. -/
  | validated (place : Nat)
deriving Repr, DecidableEq

def Engine.after (engine : Engine) : Happening → Engine
  | .registered session => engine.register session
  | .released session => engine.release session
  | .validated _ => engine

def Engine.afterAll (engine : Engine) (happenings : List Happening) : Engine :=
  happenings.foldl Engine.after engine

/-- A generation that waits: its engine and, by the places of the files, the results so far. -/
structure Waiting where
  engine : Engine
  results : List (Option ValidationResult)

namespace Waiting

variable (validate : PlacedFile → ValidationResult) (files : List PlacedFile)

/-- A generation that starts to wait. -/
def start (engine : Engine) : Waiting := ⟨engine, files.map fun _ => none⟩

def resultsAfter (results : List (Option ValidationResult)) :
    Happening → List (Option ValidationResult)
  | .validated place =>
    match files[place]? with
    | some file => results.set place (some (validate file))
    | none => results
  | .registered _ | .released _ => results

def step (waiting : Waiting) (happening : Happening) : Waiting :=
  ⟨waiting.engine.after happening, resultsAfter validate files waiting.results happening⟩

/-- A generation that waits, after several things have happened. -/
def run (waiting : Waiting) (happenings : List Happening) : Waiting :=
  happenings.foldl (step validate files) waiting

/-- The results when the wait is over. What is not validated yet is validated last. -/
def settled (waiting : Waiting) : List ValidationResult :=
  (files.zip waiting.results).map fun (file, result) => result.getD (validate file)

end Waiting

end Handoff
