import Handoff.Entries
import Mathlib.Data.List.Nodup

/-! # Entries under distinct names

Values that are given under distinct names are kept as they are given, and setting one leaves the
others.
-/

namespace Handoff.Entries

variable {α : Type} {name : String} {entries given : List (String × α)}

theorem put_of_not_mem (value : α) (h : name ∉ entries.map Prod.fst) :
    put name value entries = entries ++ [(name, value)] := by
  induction entries with
  | nil => rfl
  | cons entry rest ih =>
    obtain ⟨first, others⟩ := not_or.mp (List.mem_cons.not.mp h)
    have hn : (entry.1 == name) = false := beq_false_of_ne fun same => first same.symm
    rw [put, hn, if_neg Bool.false_ne_true, ih others, List.cons_append]

theorem lookup_put {key : String} (value : α) (other : key ≠ name) :
    (put name value entries).lookup key = entries.lookup key := by
  have absent : (key == name) = false := beq_false_of_ne other
  induction entries with
  | nil => rw [put, List.lookup_cons, absent]
  | cons entry rest ih =>
    rw [put]
    split
    case isTrue same => rw [List.lookup_cons, List.lookup_cons, absent, eq_of_beq same, absent]
    case isFalse => rw [List.lookup_cons, List.lookup_cons, ih]

theorem ofList_eq_self (h : (given.map Prod.fst).Nodup) : ofList given = given := by
  have keeps (entries : Entries α) (apart : ((entries ++ given).map Prod.fst).Nodup) :
      given.foldl (fun entries entry => put entry.1 entry.2 entries) entries =
        entries ++ given := by
    clear h
    induction given generalizing entries with
    | nil => simp
    | cons entry rest ih =>
      have fresh : entry.1 ∉ entries.map Prod.fst := by
        rw [List.map_append, List.map_cons, List.nodup_middle, List.nodup_cons] at apart
        exact fun hm => apart.1 (List.mem_append_left _ hm)
      rw [List.foldl_cons, put_of_not_mem _ fresh, ih _ (by simpa using apart)]
      simp
  exact keeps [] (by simpa using h)

end Handoff.Entries
