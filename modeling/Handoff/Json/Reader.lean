import Handoff.Json.Value
import Handoff.Number.Whole
import Handoff.Text.Encoding

/-! # Reading JSON

A text is read as one value with white space around it. A fault is reported with its cause and the
place where it was found. Values may be limited in how deep they nest.
-/

namespace Handoff.Json

inductive Fault where
  | value
  | propertyName
  | colon
  | comma
  | unterminated
  | controlCharacter
  | escape
  | unicodeEscape
  | extraData
deriving Repr, DecidableEq

def Fault.words : Fault → String
  | .value => "Expecting value"
  | .propertyName => "Expecting property name enclosed in double quotes"
  | .colon => "Expecting ':' delimiter"
  | .comma => "Expecting ',' delimiter"
  | .unterminated => "Unterminated string starting at"
  | .controlCharacter => "Invalid control character at"
  | .escape => "Invalid \\escape"
  | .unicodeEscape => "Invalid \\uXXXX escape"
  | .extraData => "Extra data"

inductive ReadError where
  /-- The text is not JSON; so many characters were left where that was found. -/
  | malformed (fault : Fault) (left : Nat)
  /-- A whole number has too many digits. -/
  | numberTooLong (fault : NumberTooLong)
  /-- A list, or else an object, lies deeper than values may nest. -/
  | tooDeep (isList : Bool)
deriving Repr, DecidableEq

/-- A place in a text, given by how many characters are left there: line, column and offset. -/
def placeText (text : List Char) (left : Nat) : String :=
  let offset := text.length - left
  let before := text.take offset
  let line := before.count '\n' + 1
  let column := (before.reverse.takeWhile (· != '\n')).length + 1
  s!"line {line} column {column} (char {offset})"

def ReadError.message (text : List Char) : ReadError → String
  | malformed fault left => fault.words ++ ": " ++ placeText text left
  | numberTooLong fault => fault.message
  | tooDeep isList =>
    let kind := if isList then "array" else "object"
    s!"maximum recursion depth exceeded while decoding a JSON {kind} from a unicode string"

/-- A value or part of one, and the text behind it. -/
abbrev Reading (α : Type) := Except ReadError (α × List Char)

def fail {α : Type} (fault : Fault) (rest : List Char) : Reading α :=
  .error (.malformed fault rest.length)

/-- The text without white space at its front. -/
def skipSpace : List Char → List Char :=
  List.dropWhile fun c => c == ' ' || c == '\t' || c == '\n' || c == '\r'

def hexValue? (c : Char) : Option Nat :=
  if c.isDigit then some (c.toNat - '0'.toNat)
  else if 'a' ≤ c && c ≤ 'f' then some (c.toNat - 'a'.toNat + 10)
  else if 'A' ≤ c && c ≤ 'F' then some (c.toNat - 'A'.toNat + 10)
  else none

/-- The UTF-16 unit that four hexadecimal digits spell. -/
def unit? : List Char → Option (Nat × List Char)
  | a :: b :: c :: d :: rest => do
    let a ← hexValue? a
    let b ← hexValue? b
    let c ← hexValue? c
    let d ← hexValue? d
    pure (((a * 16 + b) * 16 + c) * 16 + d, rest)
  | _ => none

/-- The second half of a surrogate pair; the text has to go on behind it. -/
def lowUnit? : List Char → Option (Nat × List Char)
  | '\\' :: 'u' :: rest =>
    match unit? rest with
    | some (low, c :: left) =>
      if Text.isLowUnit low then some (low, c :: left) else none
    | _ => none
  | _ => none

/-- The character of an escape by UTF-16 units; half a pair becomes the replacement character. -/
def unitChar (unit : Nat) (rest : List Char) : Char × List Char :=
  if Text.isHighUnit unit then
    match lowUnit? rest with
    | some (low, left) => (Char.ofNat (Text.pairValue unit low), left)
    | none => ('\uFFFD', rest)
  else if Text.isLowUnit unit then ('\uFFFD', rest)
  else (Char.ofNat unit, rest)

def shortEscape? : Char → Option Char
  | '"' => some '"'
  | '\\' => some '\\'
  | '/' => some '/'
  | 'b' => some '\x08'
  | 'f' => some '\x0c'
  | 'n' => some '\n'
  | 'r' => some '\r'
  | 't' => some '\t'
  | _ => none

/-- The rest of a text literal, given what was read of it, last character first. The fuel is the
number of characters that may still be read. -/
def readText (opening : Nat) (read : List Char) : Nat → List Char → Reading String
  | 0, _ | _, [] => .error (.malformed .unterminated opening)
  | fuel + 1, c :: rest =>
    if c == '"' then .ok (String.ofList read.reverse, rest)
    else if c.toNat < 0x20 then fail .controlCharacter (c :: rest)
    else if c == '\\' then
      match rest with
      | [] => .error (.malformed .unterminated opening)
      | 'u' :: digits =>
        match unit? digits with
        | some (_, []) | none => fail .unicodeEscape rest
        | some (unit, left) =>
          let (char, left) := unitChar unit left
          readText opening (char :: read) fuel left
      | letter :: left =>
        match shortEscape? letter with
        | some char => readText opening (char :: read) fuel left
        | none => fail .escape (c :: rest)
    else readText opening (c :: read) fuel rest

/-- The digits behind a point, if there are any. -/
def readFraction (whole : Nat) : List Char → Option (Nat × Nat × List Char)
  | '.' :: rest =>
    match takeDigits whole 0 rest with
    | (_, 0, _) => none
    | taken => some taken
  | _ => none

def readExponent (text : List Char) : Option (Int × List Char) :=
  match text with
  | 'e' :: _ | 'E' :: _ => exponentPart text
  | _ => none

def readNumber (negative : Bool) (start : List Char) : List Char → Reading Json
  | '0' :: rest => number 0 1 rest
  | text =>
    match takeDigits 0 0 text with
    | (_, 0, _) => fail .value start
    | (whole, count, rest) => number whole count rest
where
  /-- The number behind its whole part, which has so many digits. -/
  number (whole count : Nat) (rest : List Char) : Reading Json :=
    match readFraction whole rest with
    | some (digits, places, rest) =>
      match readExponent rest with
      | some (exponent, rest) =>
        .ok (.float (floatOfDecimal negative digits (exponent - places)), rest)
      | none => .ok (.float (floatOfDecimal negative digits (-(places : Int))), rest)
    | none =>
      match readExponent rest with
      | some (exponent, rest) => .ok (.float (floatOfDecimal negative whole exponent), rest)
      | none =>
        let value : Json := .int (if negative then -(whole : Int) else whole)
        match limitDigits count value with
        | .ok value => .ok (value, rest)
        | .error fault => .error (.numberTooLong fault)

def wordValues : List (List Char × Json) :=
  [("null".toList, .null), ("true".toList, .bool true), ("false".toList, .bool false),
   ("NaN".toList, .float (0 / 0)), ("Infinity".toList, .float (1 / 0)),
   ("-Infinity".toList, .float (-1 / 0))]

def readScalar (text : List Char) : Reading Json :=
  match wordValues.find? fun entry => entry.1.isPrefixOf text with
  | some (word, value) => .ok (value, text.drop word.length)
  | none =>
    match text with
    | '-' :: rest => readNumber true text rest
    | _ => readNumber false text text

mutual

/-- A value at the front of a text, which may nest so deep. The fuel bounds the number of steps. -/
def readValue (depth : Nat) : Nat → List Char → Reading Json
  | 0, text => fail .value text
  | fuel + 1, text =>
    match text, depth with
    | '"' :: rest, _ =>
      (readText text.length [] text.length rest).map fun (s, rest) => (.string s, rest)
    | '[' :: _, 0 => .error (.tooDeep true)
    | '[' :: rest, depth + 1 =>
      match skipSpace rest with
      | ']' :: rest => .ok (.list [], rest)
      | rest => readItems depth fuel [] rest
    | '\x7b' :: _, 0 => .error (.tooDeep false)
    | '\x7b' :: rest, depth + 1 =>
      match skipSpace rest with
      | '\x7d' :: rest => .ok (.object [], rest)
      | rest => readFields depth fuel [] rest
    | _, _ => readScalar text

/-- The items of a list from the next one on, given those before it, last first. -/
def readItems (depth : Nat) : Nat → List Json → List Char → Reading Json
  | 0, _, text => fail .value text
  | fuel + 1, items, text =>
    match readValue depth fuel text with
    | .error e => .error e
    | .ok (item, rest) =>
      match skipSpace rest with
      | ']' :: rest => .ok (.list (item :: items).reverse, rest)
      | ',' :: rest => readItems depth fuel (item :: items) (skipSpace rest)
      | rest => fail .comma rest

/-- The fields of an object from the next one on, given those before it. -/
def readFields (depth : Nat) : Nat → Fields → List Char → Reading Json
  | 0, _, text => fail .value text
  | fuel + 1, fields, text =>
    match text with
    | '"' :: rest =>
      match readText text.length [] text.length rest with
      | .error e => .error e
      | .ok (key, rest) =>
        match skipSpace rest with
        | ':' :: rest =>
          match readValue depth fuel (skipSpace rest) with
          | .error e => .error e
          | .ok (value, rest) =>
            let fields := Fields.put key value fields
            match skipSpace rest with
            | '\x7d' :: rest => .ok (.object fields, rest)
            | ',' :: rest => readFields depth fuel fields (skipSpace rest)
            | rest => fail .comma rest
        | rest => fail .colon rest
    | _ => fail .propertyName text

end

/-- The value that a text spells, which may nest so deep. No character takes more than two steps. -/
def readWithin (depth : Nat) (text : List Char) : Except ReadError Json :=
  match readValue depth (2 * text.length + 2) (skipSpace text) with
  | .ok (value, rest) =>
    match skipSpace rest with
    | [] => .ok value
    | rest => .error (.malformed .extraData rest.length)
  | .error e => .error e

/-- The value that a text spells. It cannot nest deeper than the text is long. -/
def read (text : List Char) : Except ReadError Json := readWithin text.length text

end Handoff.Json
