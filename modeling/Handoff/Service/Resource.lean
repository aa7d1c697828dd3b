import Handoff.Address.Basic

/-! # Resources of the interface

Files and renderings of their nodes have addresses of their own. The node of a rendering and its
format are fields of the query.
-/

namespace Handoff.Service

def resource (path : String) : Except AddressFault Address :=
  Address.read ("https://api.figma.com/v1/" ++ path).toList

def fileAddress (key : String) : Except AddressFault Address := resource ("files/" ++ key)

def renderingAddress (key : String) : Except AddressFault Address := resource ("images/" ++ key)

def renderingFields (node : String) : List (String × String) := [("ids", node), ("format", "svg")]

end Handoff.Service
