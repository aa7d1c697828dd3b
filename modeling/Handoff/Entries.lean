/-! # Entries

Values by name. The names keep the order in which they were first given, and each stands once: a
value that is given again takes the place of the earlier one.
-/

namespace Handoff

/-- Values by name, each name once. -/
abbrev Entries (α : Type) := List (String × α)

namespace Entries

variable {α : Type}

/-- The entries with one value set: in place when the name is there, at the end when it is new. -/
def put (name : String) (value : α) : Entries α → Entries α
  | [] => [(name, value)]
  | entry :: rest =>
    if entry.1 == name then (name, value) :: rest else entry :: put name value rest

/-- The entries for values that are given one after another. -/
def ofList (given : List (String × α)) : Entries α :=
  given.foldl (fun entries entry => put entry.1 entry.2 entries) []

end Entries

end Handoff
