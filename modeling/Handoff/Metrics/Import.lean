import Handoff.Text.Scan

/-! # Imported modules

An import stands at the start of a line, perhaps behind spaces. It names its module in quotes, and
what it takes from the module may come before, on one line and with the word `from` behind it.
-/

namespace Handoff.Metrics

open Text (Recogniser Sighted)

def isQuote (c : Char) : Bool := c == '\'' || c == '"'

def quotedModule : Recogniser :=
  .sequence [.one isQuote, .oneOrMore (!isQuote ·), .one isQuote]

def fromModule : Recogniser := .sequence [.gap, .word "from", .gap, quotedModule]

/-- Takes as little as possible of a line, but at least one character, before a module. -/
def clauseFrom : Recogniser
  | [] => none
  | c :: rest =>
    if c == '\n' then none else (fromModule rest).orElse fun _ => clauseFrom rest

/-- Takes what follows the space behind the word that imports. -/
def clauseOrModule : Recogniser := .orElse clauseFrom quotedModule

/-- Takes spaces and what follows them, trying as many spaces as there are first. -/
def spacedClause : Recogniser
  | [] => none
  | c :: rest =>
    if Text.isSpace c then (spacedClause rest).orElse fun _ => clauseOrModule rest else none

def importStatement : Sighted := fun before text =>
  if before.isNone || before == some '\n' then
    Recogniser.sequence [.spaces, .word "import", spacedClause] text
  else none

/-- The module in an import: what stands between its last two quotes. -/
def moduleOf (statement : List Char) : List Char :=
  (statement.dropLast.reverse.takeWhile (!isQuote ·)).reverse

def imports (code : List Char) : List (List Char) :=
  (Text.sightings importStatement code).map moduleOf

end Handoff.Metrics
