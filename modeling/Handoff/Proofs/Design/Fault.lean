import Handoff.Proofs.Drawing.Order

/-! # Which designs can be read

A malformed field counts as absent, with two exceptions: a whole number that is too large for a
double where a number is looked for, and a number or a truth value other than zero in the place of
gradient stops. A design is read if and only if no value down to the depth limit has such a field.
What is not looked at does no harm, such as the alpha channel of a color without its other channels.
-/

namespace Handoff

variable {α β : Type} {P Q : Prop} {x : DesignResult α} {value : Json}

/-! ## Readings -/

def DesignError.IsOfReading : DesignError → Prop
  | .integerTooLarge => True
  | .notIterable kind => kind ∈ ["bool", "int", "float"]
  | .infiniteChannel | .undefinedChannel => False

/-- When a reading has a result, and that all else are faults of a reading. -/
structure Reads (x : DesignResult α) (P : Prop) : Prop where
  ok_iff : (∃ a, x = .ok a) ↔ P
  fault : ∀ fault, x = .error fault → fault.IsOfReading

theorem reads_pure (a : α) : Reads (pure a) True where
  ok_iff := iff_of_true ⟨a, rfl⟩ trivial
  fault _ h := by cases h

theorem reads_error {fault : DesignError} (h : fault.IsOfReading) :
    Reads (.error fault : DesignResult α) False where
  ok_iff := iff_of_false (fun ⟨_, h⟩ => by cases h) id
  fault _ he := by cases he; exact h

theorem Reads.congr (h : Reads x P) (iff : P ↔ Q) : Reads x Q := ⟨h.ok_iff.trans iff, h.fault⟩

theorem Reads.bind {f : α → DesignResult β} (h : Reads x P) (hf : ∀ a, x = .ok a → Reads (f a) Q) :
    Reads (x >>= f) (P ∧ Q) := by
  cases x with
  | error fault =>
    have fails : ¬ P := fun hp => by
      obtain ⟨a, ha⟩ := h.ok_iff.mpr hp
      cases ha
    exact (reads_error (h.fault fault rfl)).congr (iff_of_false id fun hpq => fails hpq.1)
  | ok a =>
    have reads : P := h.ok_iff.mp ⟨a, rfl⟩
    exact (hf a rfl).congr (and_iff_right reads).symm

theorem Reads.map (h : Reads x P) (f : α → β) : Reads (x >>= fun a => pure (f a)) P :=
  (h.bind fun a _ => reads_pure (f a)).congr (and_iff_left trivial)

theorem reads_mapM {f : α → DesignResult β} {P : α → Prop} (h : ∀ a, Reads (f a) (P a))
    (l : List α) :
    Reads (l.mapM f) (∀ a ∈ l, P a) := by
  induction l with
  | nil => exact (reads_pure []).congr (by simp)
  | cons a l ih =>
    rw [List.mapM_cons]
    exact ((h a).bind fun _ _ => ih.map _).congr List.forall_mem_cons.symm

/-! ## Numbers -/

/-- A whole number that is too large for a double. -/
def Json.IsOversized (value : Json) : Prop := ∃ n, value = .int n ∧ floatOfInt? n = none

def Json.IsNumeral (value : Json) : Prop := ∃ x, value.number? = .ok (some x)

theorem reads_number (value : Json) : Reads value.number? (¬ value.IsOversized) := by
  cases value with
  | int n =>
    cases h : floatOfInt? n with
    | none =>
      rw [Json.number?, h]
      have fault : DesignError.integerTooLarge.IsOfReading := trivial
      exact (reads_error fault).congr (iff_of_false id fun fits => fits ⟨n, rfl, h⟩)
    | some x =>
      rw [Json.number?, h]
      refine (reads_pure (some x)).congr (iff_of_true trivial ?_)
      rintro ⟨_, ⟨⟩, none⟩
      rw [h] at none
      cases none
  | _ => exact (reads_pure _).congr (iff_of_true trivial fun ⟨_, h, _⟩ => by cases h)

theorem reads_numberField (value : Json) (key : String) :
    Reads (value.numberField? key) (¬ (value.field key).IsOversized) := reads_number _

theorem field_of_not_object (h : value.isObject = false) (key : String) :
    value.field key = .null := by
  cases value <;> first | rfl | cases h

theorem not_isOversized_null : ¬ Json.null.IsOversized := fun ⟨_, h, _⟩ => by cases h

/-- None of the fields is a whole number that is too large. -/
def Json.HasRoom (value : Json) (keys : List String) : Prop :=
  ∀ key ∈ keys, ¬ (value.field key).IsOversized

theorem hasRoom_of_not_object (h : value.isObject = false) (keys : List String) :
    value.HasRoom keys :=
  fun key _ => field_of_not_object h key ▸ not_isOversized_null

theorem hasRoom_cons (key : String) (keys : List String) :
    value.HasRoom (key :: keys) ↔ ¬ (value.field key).IsOversized ∧ value.HasRoom keys :=
  List.forall_mem_cons

theorem hasRoom_nil : value.HasRoom [] := fun _ h => absurd h List.not_mem_nil

theorem reads_object {x : DesignResult (Option α)} (h : Reads x P)
    (other : value.isObject = false → P) :
    Reads (if value.isObject then x else pure none) P := by
  split
  · exact h
  · rename_i plain
    exact (reads_pure none).congr (iff_of_true trivial (other (eq_false_of_ne_true plain)))

/-! ## Parts of a node -/

def Box.keys : List String := ["x", "y", "width", "height"]

theorem reads_box (value : Json) : Reads (Box.ofJson? value) (value.HasRoom Box.keys) := by
  refine reads_object (Reads.congr ((reads_numberField value "x").bind fun x _ =>
    (reads_numberField value "y").bind fun y _ =>
      (reads_numberField value "width").bind fun width _ =>
      (reads_numberField value "height").bind fun height _ => (?_ : Reads _ True)) ?_)
    fun h => hasRoom_of_not_object h _
  · split
    · exact reads_pure _
    · exact reads_pure _
  · simp [Box.keys, hasRoom_cons, hasRoom_nil]

def TextStyle.keys : List String := ["fontSize", "fontWeight"]

theorem reads_style (value : Json) :
    Reads (TextStyle.ofJson? value) (value.HasRoom TextStyle.keys) := by
  refine reads_object (Reads.congr ((reads_numberField value "fontSize").bind fun size _ =>
    (reads_numberField value "fontWeight").map _) ?_) fun h => hasRoom_of_not_object h _
  simp [TextStyle.keys, hasRoom_cons, hasRoom_nil]

def Color.keys : List String := ["r", "g", "b"]

def Color.IsPresent (value : Json) : Prop := ∀ key ∈ Color.keys, (value.field key).IsNumeral

/-- The channels of a color can be read. Alpha is looked at only beside the others. -/
structure Color.IsReadable (value : Json) : Prop where
  channels : value.HasRoom Color.keys
  alpha : Color.IsPresent value → ¬ (value.field "a").IsOversized

theorem Color.isReadable_of_not_object (h : value.isObject = false) : Color.IsReadable value where
  channels := hasRoom_of_not_object h _
  alpha _ := field_of_not_object h "a" ▸ not_isOversized_null

theorem isNumeral_iff {key : String} {x : Option Float} (h : value.numberField? key = .ok x) :
    (value.field key).IsNumeral ↔ ∃ y, x = some y := by
  rw [Json.numberField?] at h
  simp only [Json.IsNumeral, h, Except.ok.injEq]

theorem isPresent_iff {red green blue : Option Float} (hr : value.numberField? "r" = .ok red)
    (hg : value.numberField? "g" = .ok green) (hb : value.numberField? "b" = .ok blue) :
    Color.IsPresent value ↔ (∃ x, red = some x) ∧ (∃ x, green = some x) ∧ ∃ x, blue = some x := by
  simp [Color.IsPresent, Color.keys, isNumeral_iff hr, isNumeral_iff hg, isNumeral_iff hb]

theorem reads_color (value : Json) : Reads (Color.ofJson? value) (Color.IsReadable value) := by
  refine reads_object (Reads.congr ((reads_numberField value "r").bind fun red hr =>
    (reads_numberField value "g").bind fun green hg =>
      (reads_numberField value "b").bind fun blue hb =>
      (?_ : Reads _ (Color.IsPresent value → ¬ (value.field "a").IsOversized))) ?_)
    Color.isReadable_of_not_object
  · split
    · have all : Color.IsPresent value := (isPresent_iff hr hg hb).mpr ⟨⟨_, rfl⟩, ⟨_, rfl⟩, _, rfl⟩
      exact ((reads_numberField value "a").map _).congr ⟨fun h _ => h, fun h => h all⟩
    · rename_i missing
      refine (reads_pure none).congr (iff_of_true trivial fun all => ?_)
      obtain ⟨⟨x, rfl⟩, ⟨y, rfl⟩, z, rfl⟩ := (isPresent_iff hr hg hb).mp all
      exact absurd rfl (missing x y z rfl rfl)
  · constructor
    · rintro ⟨r, g, b, alpha⟩
      exact ⟨List.forall_mem_cons.mpr ⟨r, List.forall_mem_cons.mpr
        ⟨g, List.forall_mem_singleton.mpr b⟩⟩, alpha⟩
    · rintro ⟨channels, alpha⟩
      exact ⟨channels "r" (by decide), channels "g" (by decide), channels "b" (by decide), alpha⟩

theorem isPresent_of_ofJson? {found : Option Color} (h : Color.ofJson? value = .ok found) :
    Color.IsPresent value ↔ ∃ color, found = some color := by
  unfold Color.ofJson? at h
  split at h
  · obtain ⟨red, hr, h⟩ := bind_eq_ok h
    obtain ⟨green, hg, h⟩ := bind_eq_ok h
    obtain ⟨blue, hb, h⟩ := bind_eq_ok h
    rw [isPresent_iff hr hg hb]
    split at h
    · obtain ⟨alpha, -, h⟩ := bind_eq_ok h
      cases h
      exact iff_of_true ⟨⟨_, rfl⟩, ⟨_, rfl⟩, _, rfl⟩ ⟨_, rfl⟩
    · rename_i missing
      cases h
      refine iff_of_false ?_ (fun ⟨_, h⟩ => by cases h)
      rintro ⟨⟨x, rfl⟩, ⟨y, rfl⟩, z, rfl⟩
      exact missing x y z rfl rfl rfl
  · rename_i plain
    cases h
    refine iff_of_false (fun all => ?_) (fun ⟨_, h⟩ => by cases h)
    obtain ⟨x, hx⟩ := all "r" (by decide)
    rw [field_of_not_object (eq_false_of_ne_true plain)] at hx
    cases hx

/-! ## Paints -/

/-- A stop of a gradient can be read. Its position is looked at only beside a color. -/
structure GradientStop.IsReadable (value : Json) : Prop where
  color : Color.IsReadable (value.field "color")
  position : Color.IsPresent (value.field "color") → ¬ (value.field "position").IsOversized

def Paint.HasStops : Json → Prop
  | .list items => ∀ item ∈ items, GradientStop.IsReadable item
  | .bool value => value = false
  | .int value => value = 0
  | .float value => (value == 0) = true
  | .null | .string _ | .object _ => True

structure Paint.IsReadable (value : Json) : Prop where
  stops : Paint.HasStops (value.field "gradientStops")
  opacity : ¬ (value.field "opacity").IsOversized
  color : Color.IsReadable (value.field "color")

def Paint.AreReadable (value : Json) : Prop :=
  ∀ items, value = .list items → ∀ item ∈ items, Paint.IsReadable item

theorem reads_stop (value : Json) :
    Reads (Paint.stopOfJson? value) (GradientStop.IsReadable value) := by
  unfold Paint.stopOfJson?
  refine Reads.congr ((reads_color (value.field "color")).bind fun found h => (?_ : Reads _
    (Color.IsPresent (value.field "color") → ¬ (value.field "position").IsOversized)))
    ⟨fun h => ⟨h.1, h.2⟩, fun h => ⟨h.color, h.position⟩⟩
  have present := isPresent_of_ofJson? h
  cases found with
  | none =>
    exact (reads_pure none).congr (iff_of_true trivial fun all => by simpa using present.mp all)
  | some color =>
    have all := present.mpr ⟨color, rfl⟩
    exact ((reads_numberField value "position").map _).congr ⟨fun h _ => h, fun h => h all⟩

theorem reads_stopsOfItems (l : List Json) :
    Reads (Paint.stopsOfItems l) (∀ item ∈ l, GradientStop.IsReadable item) := by
  induction l with
  | nil => exact (reads_pure []).congr (by simp)
  | cons item l ih =>
    exact ((reads_stop item).bind fun _ _ => ih.map _).congr List.forall_mem_cons.symm

theorem reads_notIterable (kind : String) (h : kind ∈ ["bool", "int", "float"]) (hP : ¬ P) :
    Reads (.error (.notIterable kind) : DesignResult α) P :=
  (@reads_error _ (.notIterable kind) h).congr (iff_of_false id hP)

theorem reads_stops (value : Json) : Reads (Paint.stopsOfJson value) (Paint.HasStops value) := by
  unfold Paint.stopsOfJson
  cases value with
  | null => exact (reads_pure []).congr Iff.rfl
  | string s => split <;> exact reads_pure []
  | object fields => split <;> exact reads_pure []
  | list l =>
    cases l with
    | nil => exact (reads_pure []).congr (iff_of_true trivial fun _ h => absurd h List.not_mem_nil)
    | cons item l => exact reads_stopsOfItems (item :: l)
  | bool b =>
    cases b with
    | false => exact (reads_pure []).congr (iff_of_true trivial rfl)
    | true => exact reads_notIterable "bool" (by decide) Bool.noConfusion
  | int n =>
    by_cases zero : n = 0
    · subst zero
      exact (reads_pure []).congr (iff_of_true trivial rfl)
    · have : (!(Json.int n).isTruthy) = false := by simpa [Json.isTruthy] using zero
      rw [this]
      exact reads_notIterable "int" (by decide) zero
  | float x =>
    by_cases zero : (x == 0) = true
    · have : (!(Json.float x).isTruthy) = true := by simpa [Json.isTruthy, bne] using zero
      rw [this]
      exact (reads_pure []).congr (iff_of_true trivial zero)
    · have : (!(Json.float x).isTruthy) = false := by simpa [Json.isTruthy, bne] using zero
      rw [this]
      exact reads_notIterable "float" (by decide) zero

theorem reads_paint (value : Json) : Reads (Paint.ofJson? value) (Paint.IsReadable value) := by
  refine reads_object (Reads.congr ((reads_stops (value.field "gradientStops")).bind fun _ _ =>
    (reads_numberField value "opacity").bind fun _ _ => (reads_color (value.field "color")).map _)
    ⟨fun h => ⟨h.1, h.2.1, h.2.2⟩, fun h => ⟨h.stops, h.opacity, h.color⟩⟩) fun other => ?_
  have absent := field_of_not_object other
  refine ⟨?_, ?_, ?_⟩
  · rw [absent]
    trivial
  · rw [absent]
    exact not_isOversized_null
  · exact Color.isReadable_of_not_object (by rw [absent]; rfl)

theorem reads_paints (value : Json) : Reads (Paint.listOfJson value) (Paint.AreReadable value) := by
  have items (l : List Json) : Reads (Paint.listOfItems l) (∀ item ∈ l, Paint.IsReadable item) := by
    induction l with
    | nil => exact (reads_pure []).congr (by simp)
    | cons item l ih =>
      exact ((reads_paint item).bind fun _ _ => ih.map _).congr List.forall_mem_cons.symm
  cases value with
  | list l => exact (items l).congr ⟨fun h _ he => by cases he; exact h, fun h => h l rfl⟩
  | _ => exact (reads_pure []).congr (iff_of_true trivial fun _ h => by cases h)

/-! ## Nodes -/

/-- What a node itself is made of can be read. The style is looked at only in a text. -/
structure Node.IsReadable (value : Json) : Prop where
  box : (value.field "absoluteBoundingBox").HasRoom Box.keys
  fills : Paint.AreReadable (value.field "fills")
  strokes : Paint.AreReadable (value.field "strokes")
  style : value.typeWord = "TEXT" → (value.field "style").HasRoom TextStyle.keys

/-- All values of a design can be read, down to the depth limit. -/
def Json.IsReadableDesign (document : Json) : Prop :=
  ∀ path value, path.length ≤ Node.depthLimit → Reaches path document value → Node.IsReadable value

theorem reads_parts (value : Json) (children : List Node) :
    Reads (Node.ofParts value children) (Node.IsReadable value) := by
  unfold Node.ofParts
  refine Reads.congr ((reads_box _).bind fun _ _ =>
    (reads_paints (value.field "fills")).bind fun _ _ =>
    (reads_paints (value.field "strokes")).bind fun _ _ => (?_ : Reads _
      (value.typeWord = "TEXT" → (value.field "style").HasRoom TextStyle.keys)))
    ⟨fun h => ⟨h.1, h.2.1, h.2.2.1, h.2.2.2⟩, fun h => ⟨h.box, h.fills, h.strokes, h.style⟩⟩
  have kind : NodeKind.ofName (value.fieldOr "type" (.string "")).display = .text ↔
      value.typeWord = "TEXT" :=
    NodeKind.ofName_eq_iff (by decide) _
  dsimp only
  split
  · rename_i text
    exact ((reads_style (value.field "style")).bind fun _ _ => reads_pure _).congr
      ⟨fun h _ => h.1, fun h => ⟨h (kind.mp text), trivial⟩⟩
  · rename_i other
    exact (reads_pure _).congr (iff_of_true trivial fun text => absurd (kind.mpr text) other)

theorem reads_node (levels : Nat) (value : Json) : Reads (Node.ofJson levels value)
    (∀ path target, path.length ≤ levels → Reaches path value target → Node.IsReadable target) := by
  induction levels generalizing value with
  | zero =>
    refine (reads_parts value []).congr ⟨fun h path target low reached => ?_, fun h => ?_⟩
    · obtain rfl : path = [] := List.length_eq_zero_iff.mp (Nat.le_zero.mp low)
      rwa [reaches_nil_iff.mp reached]
    · exact h [] value (Nat.zero_le 0) (.here value)
  | succ levels ih =>
    refine ((reads_mapM ih (Node.childValues value)).bind fun children _ =>
      reads_parts value children).congr
      ⟨fun ⟨below, own⟩ path target low reached => ?_, fun h =>
        ⟨fun child hc path target low reached => ?_, ?_⟩⟩
    · cases path with
      | nil => rwa [reaches_nil_iff.mp reached]
      | cons place path =>
        obtain ⟨child, hm, behind⟩ := reaches_cons_iff.mp reached
        refine below child ?_ path target (Nat.le_of_succ_le_succ low) behind
        rw [childValues_eq]
        exact List.mem_map_of_mem hm
    · rw [childValues_eq] at hc
      obtain ⟨⟨_, place⟩, hm, rfl⟩ := List.mem_map.mp hc
      exact h (place :: path) target (Nat.succ_le_succ low) (reaches_cons_iff.mpr ⟨_, hm, reached⟩)
    · exact h [] value (Nat.zero_le _) (.here value)

theorem reads_design (document : Json) : Reads (Node.read document) document.IsReadableDesign :=
  reads_node Node.depthLimit document

/-- The document of a file does not depend on the key that is given for the file. -/
theorem document_of_read {design : Json} {key : Option String} {source : DesignFile}
    (h : DesignFile.read design key = .ok source) (root : Node) :
    source.document = some root ↔
      design.unwrapDocument.isObject = true ∧ Node.read design.unwrapDocument = .ok root := by
  unfold DesignFile.read at h
  dsimp only at h
  split at h
  · rename_i object
    obtain ⟨document, read, h⟩ := bind_eq_ok h
    cases h
    obtain ⟨found, parsed, he⟩ := bind_eq_ok read
    cases he
    simp [object, parsed]
  · rename_i plain
    cases h
    simp [plain]

end Handoff
