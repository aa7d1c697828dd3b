import Handoff.Proofs.Design.Fault
import Handoff.Proofs.Design.Palette
import Handoff.Proofs.Generation.Run

/-! # Which designs are generated from

A generation without markup of its own has a result if and only if its options are accepted, the
design can be read and its palette can be painted. Its component is made from the drawing of the
values that ask for a shape, so that all other values count as absent. The drawing of an unreadable
design is never reached.
-/

namespace Handoff

variable {design : Json} {source : DesignFile} {config : Config}

/-- The palette of a design can be painted, as far as the design can be read. -/
def Json.IsPaintableDesign (document : Json) : Prop :=
  ∀ root, document.isObject = true → Node.read document = .ok root →
    Palette.IsPaintable Palette.defaultLimit (Palette.fillColors root.walk)

/-! ## Files -/

theorem Node.isReadable_of_not_object {value : Json} (h : value.isObject = false) :
    Node.IsReadable value := by
  have absent := field_of_not_object h
  have typed : value.typeWord = "" := by cases value <;> first | rfl | cases h
  refine ⟨?_, ?_, ?_, fun text => absurd (typed.symm.trans text) (by decide)⟩
  · rw [absent]
    exact hasRoom_of_not_object rfl _
  · rw [absent]
    intro items listed
    cases listed
  · rw [absent]
    intro items listed
    cases listed

/-- A value that is no object has nothing below it that could be at fault. -/
theorem isReadableDesign_of_not_object {document : Json} (h : document.isObject = false) :
    document.IsReadableDesign := by
  intro path value _ reached
  cases reached with
  | here => exact Node.isReadable_of_not_object h
  | child listed =>
    rw [field_of_not_object h] at listed
    cases listed

theorem exists_file_iff (design : Json) :
    (∃ source, DesignFile.read design none = .ok source) ↔
      design.unwrapDocument.IsReadableDesign := by
  unfold DesignFile.read
  dsimp only
  split
  · rw [← (reads_design _).ok_iff]
    exact (exists_map_iff _).trans (exists_map_iff _)
  · rename_i plain
    exact iff_of_true ⟨_, rfl⟩ (isReadableDesign_of_not_object (eq_false_of_ne_true plain))

theorem ofDesign_ne_unreadable (h : design.unwrapDocument.IsReadableDesign) (fault : DesignError) :
    Drawing.ofDesign design ≠ .unreadable fault := by
  obtain ⟨root, read⟩ := (reads_design _).ok_iff.mpr h
  unfold Drawing.ofDesign
  dsimp only
  split
  · rw [read]
    dsimp only
    cases Drawing.shapesBelow root <;> exact Drawing.noConfusion
  · exact Drawing.noConfusion

/-! ## Generations -/

namespace Generation

theorem exists_findings_iff (design : Json) (config : Config) :
    (∃ findings, findingsOf ⟨design, none⟩ config = .ok findings) ↔
      design.unwrapDocument.IsReadableDesign ∧ design.unwrapDocument.IsPaintableDesign := by
  rw [← exists_file_iff]
  constructor
  · rintro ⟨findings, h⟩
    obtain ⟨source, read, h⟩ := bind_eq_ok h
    obtain ⟨palette, painted, -⟩ := bind_eq_ok h
    refine ⟨⟨source, read⟩, fun root object found => ?_⟩
    rw [paletteOf, (document_of_read read root).mpr ⟨object, found⟩] at painted
    exact (Palette.exists_collect_iff root).mp ⟨palette, painted⟩
  · rintro ⟨⟨source, read⟩, paintable⟩
    have painted : ∃ palette, paletteOf source = .ok palette := by
      unfold paletteOf
      cases h : source.document with
      | none => exact ⟨[], rfl⟩
      | some root =>
        obtain ⟨object, found⟩ := (document_of_read read root).mp h
        exact (Palette.exists_collect_iff root).mpr (paintable root object found)
    obtain ⟨palette, painted⟩ := painted
    unfold findingsOf
    rw [read]
    exact (exists_map_iff _).mpr ⟨palette, painted⟩

variable {compiler : Compiler} {observer : Observer} {session : String}
  {happenings : List Happening} {engine : Engine} {request : Request} {generated : Generated}

theorem body_ends_iff (plain : ¬ request.HoldsSurrogate) :
    (∃ generated,
        ((body compiler observer session happenings config request).run engine).1 =
          .ok generated) ↔
      ∃ findings, findingsOf request config = .ok findings := by
  cases found : findingsOf request config with
  | error fault =>
    rw [run_body_error found]
    exact iff_of_false (fun ⟨_, h⟩ => nomatch h) fun ⟨_, h⟩ => nomatch h
  | ok findings =>
    obtain ⟨generated, -, run⟩ :=
      run_body_ok compiler observer session found (encodingOf_eq_ok found plain)
    rw [run]
    exact iff_of_true ⟨generated, rfl⟩ ⟨findings, rfl⟩

theorem artifacts_of_body
    (h : ((body compiler observer session happenings config ⟨design, none⟩).run engine).1 =
      .ok generated) :
    ∃ name origin palette, Component.synthesize (Drawing.ofDesign design).render name
      generated.config origin palette none = .ok generated.artifacts := by
  have plain := not_holdsSurrogate_of_design design
  obtain ⟨findings, found⟩ := (body_ends_iff plain).mp ⟨generated, h⟩
  obtain ⟨made, completes, run⟩ :=
    run_body_ok compiler observer session found (encodingOf_eq_ok found plain)
  rw [run] at h
  cases h
  have synthesized := artifactsOf_findings found
  rw [artifactsOf, (markup_of_findingsOf found).1, markupOf, Text.write_ofString] at synthesized
  rw [completes.artifacts, completes.config]
  exact ⟨_, _, _, synthesized⟩

end Generation

open Generation

/-- A generation without markup of its own has a result if and only if its options are accepted, all
values of the design can be read, and its palette can be painted. Then its component is made from
the drawing of the values that ask for a shape, which is the placeholder where there are none. -/
theorem generated_iff (compiler : Compiler) (observer : Observer) (session : String)
    (happenings : List Happening) (options design : Json) (engine : Engine) :
    ((∃ generated, (engine.generateWithAmid compiler observer session happenings options
        ⟨design, none⟩).1 = .ok generated) ↔
      (∃ config, Config.read options = .ok config) ∧ design.unwrapDocument.IsReadableDesign ∧
        design.unwrapDocument.IsPaintableDesign) ∧
    ∀ generated, (engine.generateWithAmid compiler observer session happenings options
        ⟨design, none⟩).1 = .ok generated →
      ∃ name origin palette, Component.synthesize
        (Drawing.ofShapes ((placedShapes design.unwrapDocument).map Prod.snd)).render name
          generated.config
        origin palette none = .ok generated.artifacts := by
  unfold Engine.generateWithAmid
  cases read : Config.read options with
  | error problems =>
    refine ⟨iff_of_false ?_ ?_, fun _ h => ?_⟩
    · rintro ⟨_, h⟩
      cases h
    · rintro ⟨⟨_, h⟩, -⟩
      cases h
    · cases h
  | ok config =>
    have outcome :
        (engine.generateAmid compiler observer session happenings config ⟨design, none⟩).1 =
        ((body compiler observer session happenings config ⟨design, none⟩).run
          (engine.register session)).1 := rfl
    have plain := not_holdsSurrogate_of_design design
    dsimp only
    rw [outcome]
    refine ⟨?_, fun generated h => ?_⟩
    · rw [body_ends_iff plain, exists_findings_iff]
      exact (and_iff_right ⟨config, rfl⟩).symm
    · obtain ⟨readable, -⟩ :=
        (exists_findings_iff design config).mp ((body_ends_iff plain).mp ⟨generated, h⟩)
      rw [← ofDesign_eq design (ofDesign_ne_unreadable readable)]
      exact artifacts_of_body h

/-- A frame with a rectangle whose gradient has a number in the place of its stops. -/
def gradientDesign : Json :=
  let box : Json := .object [("x", .int 1), ("y", .int 2), ("width", .int 3), ("height", .int 4)]
  let fill : Json := .object [("type", .string "GRADIENT_LINEAR"), ("gradientStops", .int 5)]
  .object [("document", .object [("type", .string "FRAME"), ("children", .list [
    .object [("type", .string "RECTANGLE"), ("absoluteBoundingBox", box),
      ("fills", .list [fill])]])])]

/-- The number is not taken as absent: it stops the generation. -/
theorem generation_stopped_by_stops :
    Config.read .null = .ok {} ∧
      (Engine.generateWithAmid (fun _ _ => .ok []) (fun _ => .ok ()) "a" [] .null
        ⟨gradientDesign, none⟩ {}).1 = .error (.design (.notIterable "int")) := by
  have accepted : Config.read .null = .ok {} := rfl
  have fresh : "a" ∉ ({} : Engine).sessions := by decide
  have stopped : findingsOf ⟨gradientDesign, none⟩ {} = .error (.notIterable "int") := by rfl
  obtain ⟨after, ends, -⟩ :=
    generateAmid_error (fun _ _ => .ok []) (fun _ => .ok ()) [] fresh stopped
  refine ⟨accepted, ?_⟩
  rw [Engine.generateWithAmid, accepted]
  exact congrArg Prod.fst ends

end Handoff
