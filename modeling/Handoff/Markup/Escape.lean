/-! # Escaping text for markup

The three characters that markup gives a meaning become references; inside attribute values the two
quotes do as well.
-/

namespace Handoff.Markup

def escapeChar (c : Char) : List Char :=
  if c == '&' then "&amp;".toList
  else if c == '<' then "&lt;".toList
  else if c == '>' then "&gt;".toList
  else [c]

/-- A text as the content of an element. -/
def escape (text : List Char) : List Char := text.flatMap escapeChar

/-- One character of an attribute value as markup. -/
def escapeQuotedChar (c : Char) : List Char :=
  if c == '"' then "&quot;".toList
  else if c == '\'' then "&#x27;".toList
  else escapeChar c

/-- A text that may stand in an attribute value. -/
def escapeQuoted (text : List Char) : List Char := text.flatMap escapeQuotedChar

end Handoff.Markup
