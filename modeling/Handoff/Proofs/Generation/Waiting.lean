import Handoff.Generation.Waiting
import Mathlib.Data.List.Basic

/-! # What a wait leaves behind

A generation finds its own session still registered after a wait, beside just what the other
generations have left. Its results are those of its files in their order, in whatever order the
validations end.
-/

namespace Handoff

def Happening.session? : Happening → Option String
  | registered session | released session => some session
  | validated _ => none

/-! ## The sessions -/

section Sessions

variable {session : String} {engine others : Engine} {happening : Happening}
  {happenings : List Happening}

/-- One engine has a session registered, and apart from it the sessions of the other engine. -/
structure Hosts (session : String) (engine others : Engine) : Prop where
  registered : session ∈ engine.sessions
  rest : engine.sessions.filter (· != session) = others.sessions

theorem hosts_register (fresh : session ∉ engine.sessions) :
    Hosts session (engine.register session) engine where
  registered := by simp [Engine.register]
  rest := by
    have kept : engine.sessions.filter (· != session) = engine.sessions :=
      List.filter_eq_self.mpr fun other ho => bne_iff_ne.mpr fun h => fresh (h ▸ ho)
    simp [Engine.register, kept]

theorem Hosts.sessions_release (hosts : Hosts session engine others) :
    (engine.release session).sessions = others.sessions :=
  hosts.rest

theorem Hosts.after (hosts : Hosts session engine others)
    (apart : happening.session? ≠ some session) :
    Hosts session (engine.after happening) (others.after happening) := by
  obtain ⟨registered, rest⟩ := hosts
  cases happening with
  | validated place => exact ⟨registered, rest⟩
  | registered other =>
    have ho : other ≠ session := fun h => apart (h ▸ rfl)
    refine ⟨List.mem_append_left _ registered, ?_⟩
    simp [Engine.after, Engine.register, rest, ho]
  | released other =>
    have ho : other ≠ session := fun h => apart (h ▸ rfl)
    refine ⟨List.mem_filter.mpr ⟨registered, bne_iff_ne.mpr ho.symm⟩, ?_⟩
    simp only [Engine.after, Engine.release, ← rest]
    exact List.filter_comm _ _ _

theorem Hosts.afterAll (hosts : Hosts session engine others)
    (apart : ∀ happening ∈ happenings, happening.session? ≠ some session) :
    Hosts session (engine.afterAll happenings) (others.afterAll happenings) := by
  induction happenings generalizing engine others with
  | nil => exact hosts
  | cons happening rest ih =>
    obtain ⟨first, apart⟩ := List.forall_mem_cons.mp apart
    exact ih (hosts.after first) apart

@[simp] theorem notices_register : (engine.register session).notices = engine.notices := rfl

theorem notices_after : (engine.after happening).notices = engine.notices := by
  cases happening <;> rfl

@[simp] theorem notices_afterAll : (engine.afterAll happenings).notices = engine.notices := by
  induction happenings generalizing engine with
  | nil => rfl
  | cons happening rest ih => exact ih.trans notices_after

end Sessions

/-! ## The results -/

namespace Waiting

variable {validate : PlacedFile → ValidationResult} {files : List PlacedFile}
  {results : List (Option ValidationResult)} {waiting : Waiting}

/-- There is a place for each file, which holds the result of this file or nothing. -/
structure InPlace (validate : PlacedFile → ValidationResult) (files : List PlacedFile)
    (results : List (Option ValidationResult)) : Prop where
  length : results.length = files.length
  own : ∀ (place : Nat) (result : ValidationResult), results[place]? = some (some result) →
    ∃ file, files[place]? = some file ∧ result = validate file

theorem inPlace_start (engine : Engine) : InPlace validate files (start files engine).results where
  length := List.length_map _
  own place result h := by
    rw [start, List.getElem?_map] at h
    obtain ⟨_, _, hn⟩ := Option.map_eq_some_iff.mp h
    cases hn

theorem InPlace.resultsAfter (h : InPlace validate files results) (happening : Happening) :
    InPlace validate files (resultsAfter validate files results happening) := by
  cases happening with
  | registered session => exact h
  | released session => exact h
  | validated place =>
    simp only [Waiting.resultsAfter]
    split
    · rename_i file hf
      refine ⟨List.length_set.trans h.length, fun other result ho => ?_⟩
      rw [List.getElem?_set] at ho
      split at ho
      · rename_i same
        subst same
        split at ho
        · exact ⟨file, hf, by simpa using ho.symm⟩
        · cases ho
      · exact h.own other result ho
    · exact h

theorem InPlace.run (h : InPlace validate files waiting.results) (happenings : List Happening) :
    InPlace validate files (run validate files waiting happenings).results := by
  induction happenings generalizing waiting with
  | nil => exact h
  | cons happening rest ih => exact ih (h.resultsAfter happening)

theorem InPlace.settled (h : InPlace validate files waiting.results) :
    settled validate files waiting = files.map validate := by
  refine List.ext_getElem? fun place => ?_
  have same := h.length
  by_cases hp : place < files.length
  · have hr : place < waiting.results.length := same ▸ hp
    have zipped : (files.zip waiting.results)[place]? =
        some (files[place], waiting.results[place]) :=
      List.getElem?_zip_eq_some.mpr
        ⟨List.getElem?_eq_getElem hp, List.getElem?_eq_getElem hr⟩
    rw [Waiting.settled, List.getElem?_map, zipped, List.getElem?_map,
      List.getElem?_eq_getElem hp]
    cases hw : waiting.results[place] with
    | none => rfl
    | some result =>
      obtain ⟨file, hf, rfl⟩ := h.own place result (by rw [List.getElem?_eq_getElem hr, hw])
      rw [List.getElem?_eq_getElem hp] at hf
      cases hf
      rfl
  · rw [List.getElem?_eq_none (by simp [Waiting.settled]; omega),
      List.getElem?_eq_none (by simp; omega)]

theorem run_engine (waiting : Waiting) (happenings : List Happening) :
    (run validate files waiting happenings).engine = waiting.engine.afterAll happenings := by
  induction happenings generalizing waiting with
  | nil => rfl
  | cons happening rest ih => exact ih _

/-- The results after a wait do not depend on what happens meanwhile. -/
theorem settled_run (engine : Engine) (happenings : List Happening) :
    settled validate files (run validate files (start files engine) happenings) =
      files.map validate :=
  ((inPlace_start engine).run happenings).settled

end Waiting

end Handoff
