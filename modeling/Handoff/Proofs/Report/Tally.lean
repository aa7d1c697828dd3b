import Handoff.Report.Result
import Mathlib.Data.List.Basic

/-! # Tallies

A tally of names counts each name as often as it was given and holds no other name. So the findings
of a result can be read off its counts: the counts by category and those by severity add up to the
number of findings, and a result is valid exactly if no error was counted.
-/

namespace Handoff

namespace Tally

variable {name : String}

def countOf (name : String) (tally : Tally) : Nat := (tally.lookup name).getD 0

theorem countOf_cons (other key : String) (count : Nat) (rest : Tally) :
    countOf other ((key, count) :: rest) = if key = other then count else countOf other rest := by
  rw [countOf, List.lookup_cons]
  by_cases h : key = other
  · subst h
    simp
  · rw [beq_false_of_ne (Ne.symm h), if_neg h]
    rfl

theorem countOf_add (name other : String) (tally : Tally) :
    countOf other (tally.add name) = countOf other tally + if name = other then 1 else 0 := by
  induction tally with
  | nil => rw [add, countOf_cons, Nat.add_comm]; rfl
  | cons entry rest ih =>
    obtain ⟨key, count⟩ := entry
    by_cases first : key = name
    · subst first
      rw [add, if_pos (beq_self_eq_true key), countOf_cons, countOf_cons]
      split
      · rfl
      · rfl
    · rw [add, if_neg (by simpa using first), countOf_cons, countOf_cons, ih]
      split
      case isTrue h =>
        have apart : name ≠ other := fun same => first (h.trans same.symm)
        rw [if_neg apart, Nat.add_zero]
      case isFalse h => rfl

theorem countOf_ofNames (name : String) (names : List String) :
    countOf name (ofNames names) = names.count name := by
  have grown (tally : Tally) : countOf name (names.foldl (fun tally name => tally.add name) tally) =
      countOf name tally + names.count name := by
    induction names generalizing tally with
    | nil => rfl
    | cons first more ih =>
      rw [List.foldl_cons, ih, countOf_add, List.count_cons, Nat.add_assoc]
      simp only [beq_iff_eq, Nat.add_comm]
  exact (grown []).trans (Nat.zero_add _)

theorem total_ofNames (names : List String) : (ofNames names).total = names.length := by
  have grown (tally : Tally) : total (names.foldl (fun tally name => tally.add name) tally) =
      tally.total + names.length := by
    induction names generalizing tally with
    | nil => rfl
    | cons first more ih =>
      rw [List.foldl_cons, ih, total_add, List.length_cons, Nat.add_assoc, Nat.add_comm 1]
  exact (grown []).trans (Nat.zero_add _)

theorem mem_names_add (name other : String) (tally : Tally) :
    other ∈ (tally.add name).map Prod.fst ↔ other = name ∨ other ∈ tally.map Prod.fst := by
  induction tally with
  | nil => simp [add]
  | cons entry rest ih =>
    unfold add
    split
    case isTrue same =>
      rw [beq_iff_eq] at same
      simp [same]
    case isFalse =>
      rw [List.map_cons, List.mem_cons, ih, List.map_cons, List.mem_cons]
      exact or_left_comm

theorem mem_names_ofNames (name : String) (names : List String) :
    name ∈ (ofNames names).map Prod.fst ↔ name ∈ names := by
  have grown (tally : Tally) :
      name ∈ (names.foldl (fun tally name => tally.add name) tally).map Prod.fst ↔
        name ∈ tally.map Prod.fst ∨ name ∈ names := by
    induction names generalizing tally with
    | nil => simp
    | cons first more ih =>
      rw [List.foldl_cons, ih, mem_names_add, List.mem_cons]
      constructor
      · rintro ((h | h) | h)
        · exact .inr (.inl h)
        · exact .inl h
        · exact .inr (.inr h)
      · rintro (h | h | h)
        · exact .inl (.inr h)
        · exact .inl (.inl h)
        · exact .inr h
  exact (grown []).trans (or_iff_right List.not_mem_nil)

end Tally

namespace ValidationResult

/-- The accounts of a result agree: its counts are those of its findings, and its validity can be
read off the counts. -/
structure IsConsistent (result : ValidationResult) : Prop where
  total : result.stats.total = result.findings.length
  categories : result.stats.byCategory.total = result.findings.length
  severities : result.stats.bySeverity.total = result.findings.length
  category (name : String) : result.stats.byCategory.countOf name =
    (result.findings.filter fun finding => Stats.categoryOf finding == name).length
  severity (severity : Severity) :
    result.stats.bySeverity.countOf severity.name = (result.ofSeverity severity).length
  valid : result.isValid = true ↔ Severity.error.name ∉ result.stats.bySeverity.map Prod.fst

theorem name_severity_inj {a b : Severity} : a.name = b.name ↔ a = b := by
  cases a <;> cases b <;> decide

theorem isConsistent_ofFindings (findings : List Finding) : (ofFindings findings).IsConsistent where
  total := rfl
  categories := (Tally.total_ofNames _).trans (List.length_map ..)
  severities := (Tally.total_ofNames _).trans (List.length_map ..)
  category := by
    intro name
    have counted : (ofFindings findings).stats.byCategory.countOf name =
        (findings.map Stats.categoryOf).count name := Tally.countOf_ofNames _ _
    rw [counted, List.count_eq_countP, List.countP_map, List.countP_eq_length_filter]
    rfl
  severity := by
    intro severity
    have counted : (ofFindings findings).stats.bySeverity.countOf severity.name =
        (findings.map (·.severity.name)).count severity.name := Tally.countOf_ofNames _ _
    have same : ((· == severity.name) ∘ fun finding : Finding => finding.severity.name) =
        fun finding => finding.severity == severity := by
      funext finding
      rw [Function.comp_apply, Bool.eq_iff_iff, beq_iff_eq, beq_iff_eq, name_severity_inj]
    rw [counted, List.count_eq_countP, List.countP_map, List.countP_eq_length_filter, same]
    rfl
  valid := by
    have counted : Severity.error.name ∈ (ofFindings findings).stats.bySeverity.map Prod.fst ↔
        Severity.error.name ∈ findings.map (·.severity.name) := Tally.mem_names_ofNames _ _
    rw [counted, List.mem_map, isValid, Bool.not_eq_true', ← Bool.not_eq_true, List.any_eq_true]
    simp only [Finding.isBlocking, beq_iff_eq, name_severity_inj]
    rfl

end ValidationResult

end Handoff
