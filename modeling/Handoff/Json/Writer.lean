import Handoff.Json.Value
import Handoff.Number.Text

/-! # Writing JSON

Both layouts write pure ASCII: every other character is escaped by its UTF-16 units. One keeps a
value on one line, with a space behind each comma and colon; the other gives every item a line of
its own, two spaces deeper.
-/

namespace Handoff.Json

def unitEscape (n : Nat) : String :=
  let digits := Nat.toDigits 16 n
  String.ofList ('\\' :: 'u' :: (List.replicate (4 - digits.length) '0' ++ digits))

/-- One character inside a written text. -/
def escapeChar (c : Char) : String :=
  if c == '"' then "\\\""
  else if c == '\\' then "\\\\"
  else if c == '\n' then "\\n"
  else if c == '\r' then "\\r"
  else if c == '\t' then "\\t"
  else if c == '\x08' then "\\b"
  else if c == '\x0c' then "\\f"
  else if 0x20 ≤ c.toNat && c.toNat ≤ 0x7E then c.toString
  else if c.toNat < 0x10000 then unitEscape c.toNat
  else
    let n := c.toNat - 0x10000
    unitEscape (0xD800 + n / 0x400) ++ unitEscape (0xDC00 + n % 0x400)

def writeText (s : String) : String :=
  s.toList.foldl (fun written c => written ++ escapeChar c) "\"" ++ "\""

/-- A double as JSON, with the customary words where JSON has none. -/
def writeFloat (x : Float) : String :=
  match Binary64.ofFloat x with
  | .infinite negative => signed negative "Infinity"
  | .undefined => "NaN"
  | .finite _ => floatText x

/-- Where the parts of a value stand: on one line, or on lines of their own at a depth. -/
inductive Layout where
  | oneLine
  | indented (depth : Nat)

def Layout.deeper : Layout → Layout
  | .oneLine => .oneLine
  | .indented depth => .indented (depth + 1)

/-- What stands behind the opening bracket and before the closing one. -/
def Layout.lineBreak : Layout → String
  | .oneLine => ""
  | .indented depth => "\n" ++ String.ofList (List.replicate (2 * depth) ' ')

def Layout.separator : Layout → String
  | .oneLine => ", "
  | .indented depth => "," ++ (Layout.indented depth).lineBreak

def enclose (layout : Layout) (opening closing : String) (parts : List String) : String :=
  if parts.isEmpty then opening ++ closing
  else opening ++ layout.deeper.lineBreak ++
    layout.deeper.separator.intercalate parts ++ layout.lineBreak ++ closing

mutual

def write (layout : Layout) : Json → String
  | .null => "null"
  | .bool value => if value then "true" else "false"
  | .int value => intText value
  | .float value => writeFloat value
  | .string value => writeText value
  | .list items => enclose layout "[" "]" (writeItems layout.deeper items)
  | .object fields => enclose layout "\x7b" "\x7d" (writeFields layout.deeper fields)
termination_by structural value => value

def writeItems (layout : Layout) : List Json → List String
  | [] => []
  | item :: rest => item.write layout :: writeItems layout rest
termination_by structural items => items

def writeFields (layout : Layout) : List (String × Json) → List String
  | [] => []
  | (key, value) :: rest =>
    (writeText key ++ ": " ++ value.write layout) :: writeFields layout rest
termination_by structural fields => fields

end

def oneLine (value : Json) : String := value.write .oneLine

/-- A value with every part on a line of its own. -/
def indented (value : Json) : String := value.write (.indented 0)

end Handoff.Json
