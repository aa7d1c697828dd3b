import Handoff.Json.Value
import Handoff.Number.Text
import Handoff.Text.Quoted

/-! # Values as display text

A text is displayed as it is. Any other value is displayed in literal notation, in which texts are
quoted and what cannot be printed is escaped by its code point.
-/

namespace Handoff

namespace Json

mutual

def literal : Json → String
  | .null => "None"
  | .bool value => if value then "True" else "False"
  | .int value => intText value
  | .float value => floatText value
  | .string value => String.ofList (Text.quoted value.toList)
  | .list items => "[" ++ ", ".intercalate (literalItems items) ++ "]"
  | .object fields => "\x7b" ++ ", ".intercalate (literalFields fields) ++ "\x7d"
termination_by structural value => value

def literalItems : List Json → List String
  | [] => []
  | item :: rest => item.literal :: literalItems rest
termination_by structural items => items

def literalFields : List (String × Json) → List String
  | [] => []
  | (key, value) :: rest =>
    (String.ofList (Text.quoted key.toList) ++ ": " ++ value.literal) :: literalFields rest
termination_by structural fields => fields

end

def display : Json → String
  | .string value => value
  | value => value.literal

def kindWord : Json → String
  | .null => "NoneType"
  | .bool _ => "bool"
  | .int _ => "int"
  | .float _ => "float"
  | .string _ => "str"
  | .list _ => "list"
  | .object _ => "dict"

end Json

end Handoff
