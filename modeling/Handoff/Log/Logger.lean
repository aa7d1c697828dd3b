import Handoff.Log.Message
import Handoff.Log.Pattern
import Handoff.Text.Case
import Handoff.Text.Lines

/-! # Loggers

Loggers are named by words with points between them, and a record goes to the handlers of its own
logger and of all loggers above it. Setting a logger up replaces its handlers. A logger that was not
set up takes its level from the nearest one above it that was.
-/

namespace Handoff.Log

abbrev Level := Int

namespace Level

def info : Level := 20

def warning : Level := 30

/-- The levels with a name; where there are two names for one level, the first is shown. -/
def named : List (String × Level) :=
  [("CRITICAL", 50), ("FATAL", 50), ("ERROR", 40), ("WARNING", warning), ("WARN", warning),
   ("INFO", info), ("DEBUG", 10), ("NOTSET", 0)]

/-- The level of a name in letters of either case; information for an unknown one. -/
def ofName (name : String) : Level :=
  (named.lookup (String.ofList (Text.upper name.toList))).getD info

def name (level : Level) : String :=
  match named.find? (·.2 == level) with
  | some (name, _) => name
  | none => "Level " ++ intText level

end Level

inductive Sink where
  | console | file
deriving Repr, DecidableEq

/-- Writes records from a level on, except those with a message that one of its patterns fits. -/
structure Handler where
  sink : Sink
  level : Level
  suppressed : List Pattern
deriving Repr, DecidableEq

structure Logger where
  name : List String
  level : Level
  handlers : List Handler
deriving Repr, DecidableEq

/-- The loggers that were set up, by name. -/
abbrev Loggers := List Logger

structure Record where
  logger : List String
  level : Level
  message : String
deriving Repr, DecidableEq

/-- The record as a line, without the time at its front. -/
def Record.line (record : Record) : String :=
  "[" ++ record.level.name ++ "] " ++ ".".intercalate record.logger ++ ": " ++
    record.message ++ "\n"

def Handler.accepts (handler : Handler) (record : Record) : Bool :=
  handler.level ≤ record.level && !handler.suppressed.any (·.occursIn record.message)

namespace Loggers

def nameOf (text : String) : List String := (Text.pieces '.' text.toList).map String.ofList

/-- Sets a logger up with a handler for the console and perhaps one for the file. -/
def setUp (name : List String) (level : Level) (suppressed : List Pattern) (withFile : Bool)
    (loggers : Loggers) : Logger × Loggers :=
  let sinks := if withFile then [Sink.console, Sink.file] else [Sink.console]
  let logger : Logger := ⟨name, level, sinks.map fun sink => ⟨sink, level, suppressed⟩⟩
  (logger, logger :: loggers.filter (·.name != name))

/-- The logger of a name and those above it, the nearest first. -/
def chain (loggers : Loggers) (name : List String) : List Logger :=
  (List.range name.length).filterMap fun dropped =>
    loggers.find? (·.name == name.take (name.length - dropped))

def effectiveLevel (loggers : Loggers) (name : List String) : Level :=
  (((loggers.chain name).find? (·.level != 0)).map (·.level)).getD Level.warning

def written (loggers : Loggers) (record : Record) (sink : Sink) : String :=
  let handlers := (loggers.chain record.logger).flatMap (·.handlers)
  if record.level < loggers.effectiveLevel record.logger then ""
  else if handlers.isEmpty then
    if sink == .console && Level.warning ≤ record.level then record.message ++ "\n" else ""
  else String.join ((handlers.filter fun h => h.sink == sink && h.accepts record).map fun _ =>
    record.line)

end Loggers

end Handoff.Log
