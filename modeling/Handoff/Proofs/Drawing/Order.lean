import Handoff.Drawing.Extraction
import Handoff.Proofs.Drawing.Reading

/-! # The order of a drawing

A value below the document of a design is found by its path, the places in the lists of children on
the way to it. Document order is the order of paths: a value stands before what is below it, and
before what stands behind it. A drawing holds the shapes of the values down to the depth limit in
this order, each once and none left out.
-/

namespace Handoff

variable {α β γ δ : Type} {value target : Json} {path : List Nat} {levels : Nat}

/-! ## Values below a value -/

/-- The path leads from a value through lists of children to another value. Only objects are
children. -/
inductive Reaches : List Nat → Json → Json → Prop
  | here (value : Json) : Reaches [] value value
  | child {value child target : Json} {items : List Json} {place : Nat} {path : List Nat} :
    value.field "children" = .list items → items[place]? = some child → child.isObject = true →
    Reaches path child target → Reaches (place :: path) value target

def placedChildren (value : Json) : List (Json × Nat) :=
  ((value.field "children").items?.getD []).zipIdx.filter (·.1.isObject)

/-- The values below a value with their paths, down to a depth and in document order. -/
def valuesBelow : Nat → Json → List (List Nat × Json)
  | 0, _ => []
  | levels + 1, value =>
    (placedChildren value).flatMap fun (child, place) =>
      ([place], child) :: (valuesBelow levels child).map fun (path, target) =>
        (place :: path, target)

theorem childValues_eq (value : Json) :
    Node.childValues value = (placedChildren value).map Prod.fst := by
  have all := List.zipIdx_map_fst 0 ((value.field "children").items?.getD [])
  calc Node.childValues value
      = (((value.field "children").items?.getD []).zipIdx.map Prod.fst).filter (·.isObject) := by
        rw [all, Node.childValues]
    _ = (placedChildren value).map Prod.fst := List.filter_map

theorem mem_placedChildren_iff {child : Json} {place : Nat} :
    (child, place) ∈ placedChildren value ↔
      ∃ items, value.field "children" = .list items ∧ items[place]? = some child ∧
        child.isObject = true := by
  rw [placedChildren, List.mem_filter, List.mem_zipIdx_iff_getElem?]
  constructor
  · rintro ⟨found, object⟩
    cases hv : value.field "children" with
    | list items => exact ⟨items, rfl, by simpa [hv, Json.items?] using found, object⟩
    | _ => simp [hv, Json.items?] at found
  · rintro ⟨items, hv, found, object⟩
    rw [hv]
    exact ⟨found, object⟩

theorem reaches_cons_iff {place : Nat} :
    Reaches (place :: path) value target ↔
      ∃ child, (child, place) ∈ placedChildren value ∧ Reaches path child target := by
  constructor
  · intro h
    cases h with
    | child listed found object behind =>
      exact ⟨_, mem_placedChildren_iff.mpr ⟨_, listed, found, object⟩, behind⟩
  · rintro ⟨child, hm, behind⟩
    obtain ⟨items, listed, found, object⟩ := mem_placedChildren_iff.mp hm
    exact .child listed found object behind

theorem reaches_nil_iff : Reaches [] value target ↔ target = value := by
  constructor
  · intro h
    cases h
    rfl
  · rintro rfl
    exact .here target

theorem mem_valuesBelow_iff :
    (path, target) ∈ valuesBelow levels value ↔
      1 ≤ path.length ∧ path.length ≤ levels ∧ Reaches path value target := by
  induction levels generalizing value path with
  | zero =>
    constructor
    · intro h
      cases h
    · rintro ⟨low, high, -⟩
      omega
  | succ levels ih =>
    rw [valuesBelow, List.mem_flatMap]
    constructor
    · rintro ⟨⟨child, place⟩, hc, h⟩
      rcases List.mem_cons.mp h with h | h
      · obtain ⟨rfl, rfl⟩ := Prod.mk.inj h
        exact ⟨by simp, by simp, reaches_cons_iff.mpr ⟨_, hc, .here _⟩⟩
      · obtain ⟨⟨deeper, found⟩, hd, he⟩ := List.mem_map.mp h
        obtain ⟨rfl, rfl⟩ := Prod.mk.inj he
        obtain ⟨-, high, behind⟩ := ih.mp hd
        exact ⟨by simp, by simpa using high, reaches_cons_iff.mpr ⟨child, hc, behind⟩⟩
    · rintro ⟨low, high, h⟩
      obtain ⟨place, path, rfl⟩ := List.exists_cons_of_length_pos low
      obtain ⟨child, hc, behind⟩ := reaches_cons_iff.mp h
      refine ⟨(child, place), hc, ?_⟩
      cases path with
      | nil =>
        rw [reaches_nil_iff.mp behind]
        exact List.mem_cons_self
      | cons next path =>
        have deeper := ih.mpr ⟨by simp, by simpa using high, behind⟩
        exact List.mem_cons_of_mem _ (List.mem_map.mpr ⟨_, deeper, rfl⟩)

theorem pairwise_placedChildren (value : Json) :
    (placedChildren value).Pairwise fun a b => a.2 < b.2 := by
  refine List.Pairwise.filter _ (List.pairwise_map.mp ?_)
  rw [List.zipIdx_map_snd]
  exact List.pairwise_lt_range' 1

theorem pairwise_valuesBelow (levels : Nat) (value : Json) :
    (valuesBelow levels value).Pairwise fun a b => List.Lex (· < ·) a.1 b.1 := by
  induction levels generalizing value with
  | zero => exact .nil
  | succ levels ih =>
    rw [valuesBelow, List.pairwise_flatMap]
    constructor
    · rintro ⟨child, place⟩ -
      refine List.pairwise_cons.mpr ⟨fun entry he => ?_,
        List.pairwise_map.mpr ((ih child).imp .cons)⟩
      obtain ⟨⟨path, found⟩, hd, rfl⟩ := List.mem_map.mp he
      obtain ⟨low, -, -⟩ := mem_valuesBelow_iff.mp hd
      obtain ⟨next, path, rfl⟩ := List.exists_cons_of_length_pos low
      exact .cons .nil
    · have headed {child : Json} {place : Nat} {entry : List Nat × Json}
          (h : entry ∈ ([place], child) ::
            (valuesBelow levels child).map fun (path, target) => (place :: path, target)) :
          ∃ path, entry.1 = place :: path := by
        rcases List.mem_cons.mp h with rfl | h
        · exact ⟨[], rfl⟩
        · obtain ⟨found, -, rfl⟩ := List.mem_map.mp h
          exact ⟨found.1, rfl⟩
      refine (pairwise_placedChildren value).imp fun before x hx y hy => ?_
      obtain ⟨_, hx⟩ := headed hx
      obtain ⟨_, hy⟩ := headed hy
      rw [hx, hy]
      exact .rel before

/-! ## The walk over a node -/

theorem forall₂_flatMap {R : α → β → Prop} {S : γ → δ → Prop} {f : α → List γ} {g : β → List δ}
    {l : List α} {r : List β} (h : List.Forall₂ R l r)
    (each : ∀ a b, R a b → List.Forall₂ S (f a) (g b)) :
    List.Forall₂ S (l.flatMap f) (r.flatMap g) := by
  induction h with
  | nil => exact .nil
  | cons first _ ih =>
    rw [List.flatMap_cons, List.flatMap_cons]
    exact List.rel_append (each _ _ first) ih

theorem walkAll_ofJson {node : Node} (h : Node.ofJson levels value = .ok node) :
    List.Forall₂ (fun entry node => ∃ levels, Node.ofJson levels entry.2 = .ok node)
      (valuesBelow levels value) (Node.walkAll node.children) := by
  induction levels generalizing value node with
  | zero =>
    rw [Node.children_ofJson_zero h]
    exact .nil
  | succ levels ih =>
    have read := Node.children_ofJson_succ h
    rw [childValues_eq, List.forall₂_map_left_iff] at read
    rw [valuesBelow, Node.walkAll_eq_flatMap]
    refine forall₂_flatMap read fun entry node hn => ?_
    rw [Node.walk_eq]
    exact .cons ⟨levels, hn⟩ (List.forall₂_map_left_iff.mpr (ih hn))

def placedShapes (document : Json) : List (List Nat × Shape) :=
  (valuesBelow Node.depthLimit document).filterMap fun entry =>
    (Shape.ofJson? entry.2).map (entry.1, ·)

theorem mem_placedShapes_iff {shape : Shape} :
    (path, shape) ∈ placedShapes value ↔
      1 ≤ path.length ∧ path.length ≤ Node.depthLimit ∧
        ∃ target, Reaches path value target ∧ Asks target shape := by
  rw [placedShapes, List.mem_filterMap]
  constructor
  · rintro ⟨⟨path, target⟩, hm, h⟩
    obtain ⟨drawn, hs, he⟩ := Option.map_eq_some_iff.mp h
    obtain ⟨rfl, rfl⟩ := Prod.mk.inj he
    obtain ⟨low, high, reached⟩ := mem_valuesBelow_iff.mp hm
    exact ⟨low, high, target, reached, Shape.ofJson?_eq_some_iff.mp hs⟩
  · rintro ⟨low, high, target, reached, asked⟩
    refine ⟨(path, target), mem_valuesBelow_iff.mpr ⟨low, high, reached⟩, ?_⟩
    dsimp only
    rw [Shape.ofJson?_eq_some_iff.mpr asked]
    rfl

theorem pairwise_placedShapes (document : Json) :
    ((placedShapes document).map Prod.fst).Pairwise (List.Lex (· < ·)) := by
  refine List.pairwise_map.mpr ((pairwise_valuesBelow _ document).filterMap _ ?_)
  rintro a b before x hx y hy
  obtain ⟨_, -, rfl⟩ := Option.map_eq_some_iff.mp hx
  obtain ⟨_, -, rfl⟩ := Option.map_eq_some_iff.mp hy
  exact before

theorem shapesBelow_read {document : Json} {root : Node} (h : Node.read document = .ok root) :
    Drawing.shapesBelow root = (placedShapes document).map Prod.snd := by
  have aligned := walkAll_ofJson h
  rw [Drawing.shapesBelow, placedShapes, List.map_filterMap]
  generalize valuesBelow Node.depthLimit document = entries at aligned ⊢
  generalize Node.walkAll root.children = nodes at aligned ⊢
  induction aligned with
  | nil => rfl
  | cons read _ ih =>
    obtain ⟨levels, read⟩ := read
    rw [List.filterMap_cons, List.filterMap_cons, ih, Node.ofNode?_ofJson read]
    cases Shape.ofJson? _ <;> rfl

/-! ## The drawing of a design -/

theorem placedShapes_of_no_list (h : ∀ item items, value.field "children" ≠ .list (item :: items)) :
    placedShapes value = [] := by
  refine List.eq_nil_iff_forall_not_mem.mpr ?_
  rintro ⟨path, shape⟩ hm
  obtain ⟨low, -, target, reached, -⟩ := mem_placedShapes_iff.mp hm
  obtain ⟨place, path, rfl⟩ := List.exists_cons_of_length_pos low
  cases reached with
  | @child _ _ _ items _ _ listed found =>
    cases items with
    | nil => cases found
    | cons item items => exact h item items listed

/-- A design that is read without a fault is drawn by its placed shapes. -/
theorem ofDesign_eq (payload : Json)
    (readable : ∀ fault, Drawing.ofDesign payload ≠ .unreadable fault) :
    Drawing.ofDesign payload =
      Drawing.ofShapes ((placedShapes payload.unwrapDocument).map Prod.snd) := by
  unfold Drawing.ofDesign at readable ⊢
  dsimp only at readable ⊢
  split
  · rename_i listed
    simp only [listed] at readable
    split
    · rename_i root read
      exact congrArg Drawing.ofShapes (shapesBelow_read read)
    · rename_i fault read
      rw [read] at readable
      exact absurd rfl (readable fault)
  · rename_i other
    rw [placedShapes_of_no_list other]
    rfl

theorem Drawing.ne_nil_of_ofShapes {shapes drawn : List Shape}
    (h : ofShapes shapes = .shapes drawn) :
    drawn ≠ [] := by
  rw [eq_of_ofShapes h]
  rintro rfl
  cases h

theorem ne_nil_of_ofDesign {payload : Json} {drawn : List Shape}
    (h : Drawing.ofDesign payload = .shapes drawn) : drawn ≠ [] := by
  have readable : ∀ fault, Drawing.ofDesign payload ≠ .unreadable fault := by
    intro fault he
    rw [h] at he
    cases he
  exact Drawing.ne_nil_of_ofShapes ((ofDesign_eq payload readable).symm.trans h)

def Drawing.primitives : Drawing → List Shape
  | shapes drawn => drawn
  | empty | unreadable _ => []

theorem Drawing.primitives_ofShapes (drawn : List Shape) : (ofShapes drawn).primitives = drawn := by
  cases drawn <;> rfl

theorem primitives_ofDesign {payload : Json}
    (readable : ∀ fault, Drawing.ofDesign payload ≠ .unreadable fault) :
    (Drawing.ofDesign payload).primitives = (placedShapes payload.unwrapDocument).map Prod.snd := by
  rw [ofDesign_eq payload readable, Drawing.primitives_ofShapes]

theorem Shape.head?_render (shape : Shape) : shape.render.toList.head? = some '<' := by
  cases shape <;> simp [Shape.render]

theorem render_shapes_ne_empty {drawn : List Shape} (ne : drawn ≠ []) :
    (Drawing.shapes drawn).render ≠ Drawing.emptyPlaceholder := by
  obtain ⟨shape, drawn, rfl⟩ := List.exists_cons_of_ne_nil ne
  intro he
  rw [Drawing.emptyPlaceholder, Drawing.placeholder_eq, Drawing.render, List.map_cons,
    String.join_cons, String.append_assoc, String.append_assoc, String.append_assoc] at he
  have behind := congrArg (fun s => (String.toList s).head?) ((String.append_right_inj _).mp he)
  -- behind the tag that opens both, the placeholder starts a new line
  have led : shape.render.toList ≠ [] := by
    intro none
    simpa [none] using shape.head?_render
  simp only [String.toList_append, List.head?_append_of_ne_nil _ led, shape.head?_render] at behind
  cases behind

/-- Extraction loses, doubles and reorders nothing. A design that is read without a fault is drawn
as shapes with the paths of their values: in document order, and with exactly the values down to the
depth limit that ask for a shape, each for its own. Without such a value the drawing is the
placeholder. -/
theorem extraction_exact (payload : Json)
    (readable : ∀ fault, Drawing.ofDesign payload ≠ .unreadable fault) :
    ∃ drawn : List (List Nat × Shape),
      (drawn.map Prod.fst).Pairwise (List.Lex (· < ·)) ∧
      (∀ path shape, (path, shape) ∈ drawn ↔ 1 ≤ path.length ∧ path.length ≤ 64 ∧
        ∃ value, Reaches path payload.unwrapDocument value ∧ Asks value shape) ∧
      (drawn ≠ [] → (Drawing.ofDesign payload).render =
        Drawing.openTag ++ String.join (drawn.map fun entry => entry.2.render) ++
          Drawing.closeTag) ∧
      ((Drawing.ofDesign payload).render = Drawing.emptyPlaceholder ↔ drawn = []) := by
  refine ⟨placedShapes payload.unwrapDocument, pairwise_placedShapes _,
    fun path shape => mem_placedShapes_iff, ?_⟩
  rw [ofDesign_eq payload readable]
  generalize placedShapes payload.unwrapDocument = drawn
  cases drawn with
  | nil => exact ⟨fun ne => absurd rfl ne, fun _ => rfl, fun _ => rfl⟩
  | cons entry rest =>
    rw [List.map_cons, Drawing.ofShapes_cons]
    refine ⟨fun _ => ?_, fun he => absurd he (render_shapes_ne_empty (List.cons_ne_nil _ _)), ?_⟩
    · rw [Drawing.render, List.map_cons, List.map_map, List.map_cons]
      rfl
    · rintro ⟨⟩

/-- A page with a text in a frame that has no box of its own, and a rectangle behind the frame. -/
def pageDesign : Json :=
  let box : Json :=
    .object [("x", .float 1), ("y", .float 2), ("width", .float 3), ("height", .float 4)]
  .object [("document", .object [("children", .list [
    .object [("type", .string "FRAME"), ("children", .list [
      .object [("type", .string "TEXT"), ("absoluteBoundingBox", box),
        ("characters", .string "a < b")]])],
    .object [("type", .string "RECTANGLE"), ("absoluteBoundingBox", box)]])])]

theorem ofDesign_pageDesign : Drawing.ofDesign pageDesign =
    .shapes [.label ⟨1, 2, 3, 4⟩ "a < b", .rectangle ⟨1, 2, 3, 4⟩] := by
  rfl

theorem extraction_exact_page :
    (∀ fault, Drawing.ofDesign pageDesign ≠ .unreadable fault) ∧
      ∃ drawn : List (List Nat × Shape),
        (drawn.map Prod.fst).Pairwise (List.Lex (· < ·)) ∧
        (∀ path shape, (path, shape) ∈ drawn ↔ 1 ≤ path.length ∧ path.length ≤ 64 ∧
          ∃ value, Reaches path pageDesign.unwrapDocument value ∧ Asks value shape) ∧
        (drawn ≠ [] → (Drawing.ofDesign pageDesign).render =
          Drawing.openTag ++ String.join (drawn.map fun entry => entry.2.render) ++
            Drawing.closeTag) ∧
        ((Drawing.ofDesign pageDesign).render = Drawing.emptyPlaceholder ↔ drawn = []) := by
  have readable : ∀ fault, Drawing.ofDesign pageDesign ≠ .unreadable fault := by
    intro fault he
    rw [ofDesign_pageDesign] at he
    cases he
  exact ⟨readable, extraction_exact pageDesign readable⟩

end Handoff
