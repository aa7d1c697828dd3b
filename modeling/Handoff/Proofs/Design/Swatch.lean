import Handoff.Proofs.Design.Palette
import Handoff.Proofs.Design.Visit
import Handoff.Stylesheet.Value
import Mathlib.Data.List.TakeWhile

/-! # The colors of a palette

Each visible solid fill of a design has a place, in the order of the document and of the fills of a
node. A palette is what these fills are written as, each text where it occurs first, up to the
limit. A channel that is rounded and kept within its scale has two digits, so every text is a color
of a stylesheet.
-/

namespace Handoff

variable {α : Type} {color : Color} {text : String} {colors : List Color}
  {hexes found front : List String}

/-! ## First occurrences -/

section FirstOccurrences

variable [BEq α] [LawfulBEq α] {a : α} {x y : List α}

theorem nodup_eraseDups (x : List α) : x.eraseDups.Nodup := by
  induction size : x.length using Nat.strongRecOn generalizing x with
  | _ size ih =>
    cases x with
    | nil => simp
    | cons a x =>
      rw [List.eraseDups_cons, List.nodup_cons]
      constructor
      · simp [List.mem_eraseDups]
      · exact ih _ (size ▸ Nat.lt_succ_of_le (List.length_filter_le _ x)) _ rfl

theorem eraseDups_of_nodup (nodup : x.Nodup) : x.eraseDups = x := by
  induction x with
  | nil => simp
  | cons a x ih =>
    obtain ⟨new, nodup⟩ := List.nodup_cons.mp nodup
    have all : x.filter (fun b => !b == a) = x := by
      rw [List.filter_eq_self]
      intro b hb
      simpa using ne_of_mem_of_not_mem hb new
    rw [List.eraseDups_cons, all, ih nodup]

theorem eraseDups_prefix_append (x y : List α) : x.eraseDups <+: (x ++ y).eraseDups := by
  rw [List.eraseDups_append]
  exact List.prefix_append _ _

theorem length_eraseDups_concat_le (x : List α) (a : α) :
    (x ++ [a]).eraseDups.length ≤ x.eraseDups.length + 1 := by
  rw [List.eraseDups_append, List.length_append]
  apply Nat.add_le_add_left
  by_cases old : a ∈ x <;> simp [List.removeAll, old, List.eraseDups_cons]

theorem eraseDups_append_cons_of_mem (old : a ∈ x) (y : List α) :
    (x ++ a :: y).eraseDups = (x ++ y).eraseDups := by
  rw [List.eraseDups_append, List.eraseDups_append]
  simp [List.removeAll, old]

/-- A value is left out of the first ones only behind as many others. -/
theorem le_length_of_not_mem_take {n : Nat} (missing : a ∉ (x ++ a :: y).eraseDups.take n) :
    n ≤ x.eraseDups.length := by
  by_contra few
  apply missing
  have whole : (x ++ [a]).eraseDups <+: (x ++ a :: y).eraseDups := by
    rw [List.append_cons x a y]
    exact eraseDups_prefix_append _ y
  have short : (x ++ [a]).eraseDups.length ≤ n := by
    have := length_eraseDups_concat_le x a
    omega
  apply (List.prefix_take_iff.mpr ⟨whole, short⟩).subset
  simp [List.mem_eraseDups]

end FirstOccurrences

namespace Palette

theorem collectFrom_eq {limit : Int}
    (read : List.Forall₂ (fun color hex => color.hex = .ok hex) colors hexes)
    (nodup : found.Nodup) (room : found.length < limit) :
    collectFrom limit found colors = .ok ((found ++ hexes).eraseDups.take limit.toNat) := by
  induction read generalizing found with
  | nil =>
    rw [collectFrom, List.append_nil, eraseDups_of_nodup nodup, List.take_of_length_le (by omega)]
    rfl
  | @cons color hex colors hexes written read ih =>
    have once : (added hex found).Nodup := nodup_added nodup hex
    have same : (found ++ hex :: hexes).eraseDups = (added hex found ++ hexes).eraseDups := by
      unfold added
      split
      · rename_i old
        exact eraseDups_append_cons_of_mem (by simpa using old) hexes
      · rw [List.append_cons]
    rw [collectFrom_cons written, same]
    split
    · rename_i full
      have length : (added hex found).length = limit.toNat := by
        have more : (added hex found).length ≤ found.length + 1 := by
          unfold added
          split <;> simp
        omega
      have first := eraseDups_prefix_append (added hex found) hexes
      rw [eraseDups_of_nodup once, List.prefix_iff_eq_take, length] at first
      rw [← first]
    · rename_i short
      exact ih once (Int.not_le.mp short)

end Palette

/-! ## Digits of a color -/

namespace Color

def IsDigit (d : Char) : Prop := d ∈ "0123456789abcdef".toList

theorem isDigit_digitChar {n : Nat} (small : n < 16) : IsDigit n.digitChar := by
  unfold IsDigit
  revert n
  decide

theorem channel_le {x : Float} {n : Nat} (h : channel x = .ok n) : n ≤ 255 := by
  unfold channel at h
  split at h
  · cases h
    exact Nat.min_le_left _ _
  · cases h
  · cases h

theorem digits_of_channel {x : Float} {n : Nat} (h : channel x = .ok n) :
    ∃ high low, high < 16 ∧ low < 16 ∧ n = 16 * high + low ∧
      (hexPair n).toList = [high.digitChar, low.digitChar] := by
  have bound := channel_le h
  refine ⟨n / 16, n % 16, by omega, by omega, by omega, ?_⟩
  rw [hexPair, String.toList_ofList, Nat.mod_eq_of_lt (a := n / 16) (by omega)]

/-- The color is written in six lower-case hexadecimal digits, and in eight if it is not opaque. -/
def IsWritten (color : Color) (text : String) : Prop :=
  ∃ digits, text.toList = '#' :: digits ∧ (∀ d ∈ digits, IsDigit d) ∧
    digits.length = if color.alpha < 1 then 8 else 6

theorem isDigit_of_channel {x : Float} {n : Nat} (h : channel x = .ok n) :
    (∀ d ∈ (hexPair n).toList, IsDigit d) ∧ (hexPair n).toList.length = 2 := by
  obtain ⟨high, low, hh, hl, -, pair⟩ := digits_of_channel h
  rw [pair]
  constructor
  · intro d hd
    rcases List.mem_pair.mp hd with rfl | rfl
    · exact isDigit_digitChar hh
    · exact isDigit_digitChar hl
  · rfl

theorem isWritten_hex (h : color.hex = .ok text) : color.IsWritten text := by
  obtain ⟨⟨red, green, blue⟩, channels, h⟩ := bind_eq_ok h
  obtain ⟨_, hr, channels⟩ := bind_eq_ok channels
  obtain ⟨_, hg, channels⟩ := bind_eq_ok channels
  obtain ⟨_, hb, channels⟩ := bind_eq_ok channels
  cases channels
  obtain ⟨reds, twoReds⟩ := isDigit_of_channel hr
  obtain ⟨greens, twoGreens⟩ := isDigit_of_channel hg
  obtain ⟨blues, twoBlues⟩ := isDigit_of_channel hb
  dsimp only at h
  split at h
  · rename_i faint
    obtain ⟨alpha, ha, h⟩ := bind_eq_ok h
    cases h
    obtain ⟨alphas, twoAlphas⟩ := isDigit_of_channel ha
    refine ⟨(hexPair red ++ hexPair green ++ hexPair blue ++ hexPair alpha).toList, by simp, ?_, ?_⟩
    · simp only [String.toList_append, List.forall_mem_append]
      exact ⟨⟨⟨reds, greens⟩, blues⟩, alphas⟩
    · simp only [String.toList_append, List.length_append, twoReds, twoGreens, twoBlues, twoAlphas,
        if_pos faint]
  · rename_i full
    cases h
    refine ⟨(hexPair red ++ hexPair green ++ hexPair blue).toList, by simp, ?_, ?_⟩
    · simp only [String.toList_append, List.forall_mem_append]
      exact ⟨⟨reds, greens⟩, blues⟩
    · simp only [String.toList_append, List.length_append, twoReds, twoGreens, twoBlues,
        if_neg full]

theorem IsDigit.isHexDigit {d : Char} (h : IsDigit d) : Stylesheet.isHexDigit d = true := by
  unfold IsDigit at h
  revert d
  decide

theorem IsWritten.isColor (h : color.IsWritten text) : Stylesheet.isColor text.toList = true := by
  obtain ⟨digits, same, all, length⟩ := h
  have hex : ∀ d ∈ digits, Stylesheet.isHexDigit d = true := fun d hd => (all d hd).isHexDigit
  have size : [3, 4, 6, 8].contains digits.length = true := by
    rw [length]
    split <;> rfl
  have found : Stylesheet.isHexColor text.toList = true := by
    rw [same, Stylesheet.isHexColor, List.takeWhile_eq_self_iff.mpr hex,
      List.dropWhile_eq_nil_iff.mpr hex, size]
    rfl
  simp [Stylesheet.isColor, found]

end Color

/-! ## The fills of a design -/

def Paint.solidColor? (paint : Paint) : Option Color :=
  if paint.visible && paint.isSolid then paint.color else none

theorem Paint.solidColor?_eq_some_iff {paint : Paint} : paint.solidColor? = some color ↔
    paint.visible = true ∧ paint.kind = "SOLID" ∧ paint.color = some color := by
  unfold solidColor?
  constructor
  · intro h
    split at h
    · rename_i shown
      obtain ⟨visible, solid⟩ := Bool.and_eq_true_iff.mp shown
      obtain ⟨kind, -⟩ := Bool.and_eq_true_iff.mp solid
      exact ⟨visible, eq_of_beq kind, h⟩
    · cases h
  · rintro ⟨visible, kind, found⟩
    simp [visible, isSolid, kind, found]

/-- A visible solid fill: the path to its node, its place among the fills of the node, and its
color. -/
structure Swatch where
  path : List Nat
  place : Nat
  color : Color

namespace Swatch

def IsOf (root : Node) (swatch : Swatch) : Prop :=
  ∃ node paint, Node.Leads swatch.path root node ∧ node.fills[swatch.place]? = some paint ∧
    paint.visible = true ∧ paint.kind = "SOLID" ∧ paint.color = some swatch.color

/-- The order of fills: that of their nodes in the document, and in a node that of its fills. -/
def Before (a b : Swatch) : Prop :=
  List.Lex (· < ·) a.path b.path ∨ a.path = b.path ∧ a.place < b.place

end Swatch

namespace Node

variable {root node : Node} {path : List Nat} {swatch : Swatch}

def swatchesAt (path : List Nat) (node : Node) : List Swatch :=
  node.fills.zipIdx.filterMap fun entry => entry.1.solidColor?.map (⟨path, entry.2, ·⟩)

/-- The visible solid fills of a design with their places. -/
def swatches (root : Node) : List Swatch := root.placed.flatMap fun entry =>
  swatchesAt entry.1 entry.2

theorem mem_swatchesAt_iff : swatch ∈ swatchesAt path node ↔ swatch.path = path ∧
    ∃ paint, node.fills[swatch.place]? = some paint ∧ paint.visible = true ∧ paint.kind = "SOLID" ∧
      paint.color = some swatch.color := by
  rw [swatchesAt, List.mem_filterMap]
  constructor
  · rintro ⟨⟨paint, place⟩, hm, h⟩
    obtain ⟨color, hc, rfl⟩ := Option.map_eq_some_iff.mp h
    exact ⟨rfl, paint, List.mem_zipIdx_iff_getElem?.mp hm, Paint.solidColor?_eq_some_iff.mp hc⟩
  · rintro ⟨rfl, paint, found, shown⟩
    refine ⟨(paint, swatch.place), List.mem_zipIdx_iff_getElem?.mpr found, ?_⟩
    rw [Paint.solidColor?_eq_some_iff.mpr shown]
    rfl

theorem mem_swatches_iff : swatch ∈ root.swatches ↔ swatch.IsOf root := by
  rw [swatches, List.mem_flatMap]
  constructor
  · rintro ⟨⟨path, node⟩, hm, h⟩
    obtain ⟨rfl, paint, shown⟩ := mem_swatchesAt_iff.mp h
    exact ⟨node, paint, mem_placed_iff.mp hm, shown⟩
  · rintro ⟨node, paint, leads, shown⟩
    exact ⟨(swatch.path, node), mem_placed_iff.mpr leads,
      mem_swatchesAt_iff.mpr ⟨rfl, paint, shown⟩⟩

theorem map_color_swatchesAt (path : List Nat) (node : Node) :
    (swatchesAt path node).map Swatch.color = node.fills.filterMap Paint.solidColor? := by
  have paints := List.zipIdx_map_fst 0 node.fills
  calc (swatchesAt path node).map Swatch.color
      = node.fills.zipIdx.filterMap (Paint.solidColor? ∘ Prod.fst) := by
        rw [swatchesAt, List.map_filterMap]
        congr 1
        funext entry
        rw [Option.map_map]
        exact congrFun Option.map_id _
    _ = node.fills.filterMap Paint.solidColor? := by rw [← List.filterMap_map, paints]

theorem map_color_swatches (root : Node) :
    root.swatches.map Swatch.color = Palette.fillColors root.walk := by
  have colors :
      Palette.fillColors root.walk = (root.walk.flatMap fills).filterMap Paint.solidColor? := rfl
  rw [colors, ← map_snd_placed, swatches, List.map_flatMap, List.flatMap_map,
    List.filterMap_flatMap]
  exact List.flatMap_congr fun entry _ => map_color_swatchesAt entry.1 entry.2

mutual

theorem pairwise_placed (node : Node) : (node.placed.map Prod.fst).Pairwise (List.Lex (· < ·)) := by
  cases node with
  | mk id name kind typeName box fills strokes visible content children =>
    rw [placed, List.map_cons, List.pairwise_cons]
    refine ⟨fun path hm => ?_, pairwise_placedAll 0 children⟩
    obtain ⟨⟨path, target⟩, listed, rfl⟩ := List.mem_map.mp hm
    cases path with
    | nil => exact absurd listed (nil_not_mem_placedAll 0 children target)
    | cons place path => exact .nil
termination_by structural node

theorem pairwise_placedAll (start : Nat) (nodes : List Node) :
    ((placedAll start nodes).map Prod.fst).Pairwise (List.Lex (· < ·)) := by
  cases nodes with
  | nil => exact .nil
  | cons node rest =>
    have first := pairwise_placed node
    rw [placedAll, List.map_append, List.pairwise_append, List.map_map]
    refine ⟨?_, pairwise_placedAll (start + 1) rest, ?_⟩
    · rw [List.pairwise_map] at first ⊢
      exact first.imp .cons
    · intro path hm other hr
      -- the paths into the rest start with later places
      obtain ⟨entry, -, rfl⟩ := List.mem_map.mp hm
      obtain ⟨⟨path, target⟩, listed, rfl⟩ := List.mem_map.mp hr
      cases path with
      | nil => exact absurd listed (nil_not_mem_placedAll _ rest target)
      | cons place path =>
        obtain ⟨i, -, rfl, -⟩ := cons_mem_placedAll_iff.mp listed
        exact .rel (by omega)
termination_by structural nodes

end

theorem pairwise_swatchesAt (path : List Nat) (node : Node) :
    (swatchesAt path node).Pairwise Swatch.Before := by
  have places : node.fills.zipIdx.Pairwise fun a b => a.2 < b.2 := by
    apply List.pairwise_map.mp
    rw [List.zipIdx_map_snd]
    exact List.pairwise_lt_range' 1
  apply places.filterMap
  rintro a b before x hx y hy
  obtain ⟨_, -, rfl⟩ := Option.map_eq_some_iff.mp hx
  obtain ⟨_, -, rfl⟩ := Option.map_eq_some_iff.mp hy
  exact .inr ⟨rfl, before⟩

theorem pairwise_swatches (root : Node) : root.swatches.Pairwise Swatch.Before := by
  rw [swatches, List.pairwise_flatMap]
  constructor
  · rintro ⟨path, node⟩ -
    exact pairwise_swatchesAt path node
  · apply (List.pairwise_map.mp (pairwise_placed root)).imp
    intro a b before x hx y hy
    obtain ⟨hx, -⟩ := mem_swatchesAt_iff.mp hx
    obtain ⟨hy, -⟩ := mem_swatchesAt_iff.mp hy
    exact .inl (hx ▸ hy ▸ before)

end Node

/-! ## The palette of a design -/

/-- A palette of a design: what its visible solid fills are written as in their order, each text
where it occurs first, up to the limit. -/
structure Palette.Lists (root : Node) (limit : Int) (palette : List String) (swatches : List Swatch)
    (hexes : List String) : Prop where
  ordered : swatches.Pairwise Swatch.Before
  complete : ∀ swatch, swatch ∈ swatches ↔ swatch.IsOf root
  written : List.Forall₂ (fun swatch hex => swatch.color.hex = .ok hex) swatches hexes
  first : palette = hexes.eraseDups.take limit.toNat
  nodup : palette.Nodup
  short : palette.length ≤ limit
  dropped : ∀ front hex back, hexes = front ++ hex :: back → hex ∉ palette →
    limit ≤ front.eraseDups.length
  digits : ∀ text ∈ palette, ∃ swatch ∈ swatches, swatch.color.hex = .ok text ∧
    swatch.color.IsWritten text
  accepted : ∀ text ∈ palette, Stylesheet.isColor text.toList = true

theorem exists_written {swatches : List Swatch}
    (written : List.Forall₂ (fun swatch hex => swatch.color.hex = .ok hex) swatches hexes)
      (hm : text ∈ hexes) :
    ∃ swatch ∈ swatches, swatch.color.hex = .ok text := by
  induction written with
  | nil => cases hm
  | @cons swatch hex swatches hexes found _ ih =>
    rcases List.mem_cons.mp hm with rfl | hm
    · exact ⟨swatch, List.mem_cons_self, found⟩
    · obtain ⟨other, ho, found⟩ := ih hm
      exact ⟨other, List.mem_cons_of_mem _ ho, found⟩

theorem exists_hexes {swatches : List Swatch}
    (paintable : ∀ swatch ∈ swatches, swatch.color.IsPaintable) :
    ∃ hexes, List.Forall₂ (fun swatch hex => swatch.color.hex = .ok hex) swatches hexes := by
  induction swatches with
  | nil => exact ⟨[], .nil⟩
  | cons swatch swatches ih =>
    obtain ⟨first, others⟩ := List.forall_mem_cons.mp paintable
    obtain ⟨hex, found⟩ := swatch.color.exists_hex_iff.mpr first
    obtain ⟨hexes, written⟩ := ih others
    exact ⟨hex :: hexes, .cons found written⟩

theorem Palette.lists_of_written {root : Node} {limit : Int} (positive : 1 ≤ limit)
    {hexes : List String}
    (written : List.Forall₂ (fun swatch hex => swatch.color.hex = .ok hex) root.swatches hexes) :
    Palette.Lists root limit (hexes.eraseDups.take limit.toNat) root.swatches hexes where
  ordered := root.pairwise_swatches
  complete _ := Node.mem_swatches_iff
  written := written
  first := rfl
  nodup := (nodup_eraseDups hexes).sublist (List.take_sublist _ _)
  short := by
    have := List.length_take_le limit.toNat hexes.eraseDups
    omega
  dropped := by
    rintro front hex back rfl missing
    have := le_length_of_not_mem_take missing
    omega
  digits := by
    intro text hm
    obtain ⟨swatch, hs, found⟩ :=
      exists_written written (List.mem_eraseDups.mp (List.mem_of_mem_take hm))
    exact ⟨swatch, hs, found, Color.isWritten_hex found⟩
  accepted := by
    intro text hm
    obtain ⟨swatch, -, found⟩ :=
      exists_written written (List.mem_eraseDups.mp (List.mem_of_mem_take hm))
    exact (Color.isWritten_hex found).isColor

/-- The palette of a design whose colors are finite holds the colors of its visible solid fills,
each once and in the order in which they come, until there are enough of them. -/
theorem collect_lists (root : Node) (limit : Int) (positive : 1 ≤ limit)
    (paintable : ∀ swatch, Swatch.IsOf root swatch → swatch.color.IsPaintable) :
    ∃ palette swatches hexes, Palette.collect root limit = .ok palette ∧
      Palette.Lists root limit palette swatches hexes := by
  obtain ⟨hexes, written⟩ : ∃ hexes, List.Forall₂ (fun swatch hex => swatch.color.hex = .ok hex)
      root.swatches hexes :=
    exists_hexes fun swatch hm => paintable swatch (Node.mem_swatches_iff.mp hm)
  refine ⟨_, root.swatches, hexes, ?_, Palette.lists_of_written positive written⟩
  have colors :
      List.Forall₂ (fun color hex => color.hex = .ok hex) (Palette.fillColors root.walk) hexes := by
    rw [← Node.map_color_swatches, List.forall₂_map_left_iff]
    exact written
  exact Palette.collectFrom_eq colors List.nodup_nil positive

/-- A frame that is filled twice, around a node with a color out of range and one that is filled
like the frame. -/
def paintedFrame : Node :=
  let paint (color : Color) : Paint := ⟨"SOLID", some color, [], 1, true⟩
  let node (fills : List Paint) (children : List Node) : Node :=
    .mk "" "" .frame "FRAME" none fills [] true none children
  node [paint ⟨1, 0, 0, 1⟩, paint ⟨0, 0, 0.2, 0.5⟩]
    [node [paint ⟨-1, 1e300, 0.5, 1⟩] [node [paint ⟨1, 0, 0, 1⟩, paint ⟨0, 0, 0, 2⟩] []],
      node [paint ⟨1, 1, 1, 1⟩] []]

theorem collect_lists_paintedFrame : (1 : Int) ≤ 4 ∧
    (∀ swatch, Swatch.IsOf paintedFrame swatch → swatch.color.IsPaintable) ∧
    (Palette.collect paintedFrame 4).toOption =
      some ["#ff0000", "#00003380", "#00ff80", "#000000"] ∧
    ∃ palette swatches hexes, Palette.collect paintedFrame 4 = .ok palette ∧
      Palette.Lists paintedFrame 4 palette swatches hexes := by
  have paintable (swatch : Swatch) (h : swatch.IsOf paintedFrame) : swatch.color.IsPaintable := by
    have all : ∀ swatch ∈ paintedFrame.swatches, swatch.color.hex.toOption.isSome = true := by
      decide +kernel
    have written := all swatch (Node.mem_swatches_iff.mpr h)
    cases found : swatch.color.hex with
    | ok hex => exact swatch.color.exists_hex_iff.mp ⟨hex, found⟩
    | error fault =>
      rw [found] at written
      cases written
  exact ⟨by decide, paintable, by decide +kernel,
    collect_lists paintedFrame 4 (by decide) paintable⟩

end Handoff
