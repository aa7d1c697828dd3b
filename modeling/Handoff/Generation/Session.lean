/-! # Sessions

An engine keeps the sessions of the generations that run. A generation passes fixed checkpoints, at
each of which an observer is told about it.
-/

namespace Handoff

inductive Checkpoint where
  | analyzing | planning | generating | validating | assessing | finalizing | complete
deriving Repr, DecidableEq

namespace Checkpoint

/-- How much of the work is done, in percent. -/
def percent : Checkpoint → Nat
  | analyzing => 10
  | planning => 30
  | generating => 50
  | validating => 70
  | assessing => 85
  | finalizing => 95
  | complete => 100

def status : Checkpoint → String
  | analyzing => "Analyzing design..."
  | planning => "Planning structure..."
  | generating => "Generating components..."
  | validating => "Validating code..."
  | assessing => "Assessing quality..."
  | finalizing => "Finalizing..."
  | complete => "Complete!"

end Checkpoint

/-- What an observer is told: a checkpoint, and the sessions that are registered then. -/
structure Notice where
  checkpoint : Checkpoint
  sessions : List String
deriving Repr, DecidableEq

/-- Is told about checkpoints, and may fail. -/
abbrev Observer := Notice → Except String Unit

/-- The sessions that are registered and the notices that were given, the first one first. -/
structure Engine where
  sessions : List String := []
  notices : List Notice := []
deriving Repr, DecidableEq

namespace Engine

def register (session : String) (engine : Engine) : Engine :=
  { engine with sessions := engine.sessions ++ [session] }

def release (session : String) (engine : Engine) : Engine :=
  { engine with sessions := engine.sessions.filter (· != session) }

end Engine

end Handoff
