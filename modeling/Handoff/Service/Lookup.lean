import Handoff.Json.Equality

/-! # Looking up nodes

A node is looked up in a document as it arrives, before anything is read into it: every object in a
list of children is a node.
-/

namespace Handoff.Service

mutual

def nodesOf : Json → List Json
  | .object fields => .object fields :: nodesOfFields fields
  | _ => []
termination_by structural value => value

def nodesOfFields : List (String × Json) → List Json
  | [] => []
  | (key, value) :: rest => if key == "children" then nodesOfChildren value else nodesOfFields rest
termination_by structural fields => fields

def nodesOfChildren : Json → List Json
  | .list items => nodesOfItems items
  | _ => []
termination_by structural value => value

def nodesOfItems : List Json → List Json
  | [] => []
  | item :: rest => nodesOf item ++ nodesOfItems rest
termination_by structural items => items

end

/-- The first node of a document with an identifier. -/
def findNode (document id : Json) : Option Json :=
  (nodesOf document).find? fun node => (node.field "id").same id

/-- A file with a document that holds one node and nothing else. -/
def scopedTo (node : Json) (file : Json.Fields) : Json.Fields :=
  Json.Fields.erase file "document" ++
    [("document", .object [("id", .string "0:0"), ("name", .string "Document"),
      ("type", .string "DOCUMENT"), ("children", .list [node])])]

end Handoff.Service
