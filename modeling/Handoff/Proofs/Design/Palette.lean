import Handoff.Design.File
import Handoff.Proofs.Drawing.Reading
import Mathlib.Data.Finset.Card

/-! # Which palettes can be painted

A color is written in hexadecimal digits if its channels on the scale to 255 are finite; alpha
counts only where it is below one. A palette looks at the colors in their order until it has enough
different ones, so a color without digits is a fault only if it stands before that.
-/

namespace Handoff

def Color.IsScaled (x : Float) : Prop := ∃ value, Binary64.ofFloat (x * 255) = .finite value

structure Color.IsPaintable (color : Color) : Prop where
  red : Color.IsScaled color.red
  green : Color.IsScaled color.green
  blue : Color.IsScaled color.blue
  alpha : color.alpha < 1 → Color.IsScaled color.alpha

theorem Color.exists_channel_iff (x : Float) : (∃ n, Color.channel x = .ok n) ↔
    Color.IsScaled x := by
  unfold Color.channel Color.IsScaled
  cases Binary64.ofFloat (x * 255) <;> simp

theorem exists_bind_iff {α β : Type} {x : DesignResult α} {f : α → DesignResult β} {P : Prop}
    (h : ∀ a, (∃ b, f a = .ok b) ↔ P) : (∃ b, (x >>= f) = .ok b) ↔ (∃ a, x = .ok a) ∧ P := by
  constructor
  · rintro ⟨b, hb⟩
    obtain ⟨a, ha, hf⟩ := bind_eq_ok hb
    exact ⟨⟨a, ha⟩, (h a).mp ⟨b, hf⟩⟩
  · rintro ⟨⟨a, rfl⟩, hp⟩
    exact (h a).mpr hp

theorem exists_map_iff {α β : Type} {x : DesignResult α} (f : α → β) :
    (∃ b, (x >>= fun a => pure (f a)) = .ok b) ↔ ∃ a, x = .ok a :=
  (exists_bind_iff fun a => iff_of_true ⟨f a, rfl⟩ trivial).trans (and_iff_left trivial)

theorem Color.exists_channels_iff (color : Color) : (∃ found, color.channels = .ok found) ↔
    Color.IsScaled color.red ∧ Color.IsScaled color.green ∧ Color.IsScaled color.blue := by
  rw [← exists_channel_iff, ← exists_channel_iff, ← exists_channel_iff]
  exact exists_bind_iff fun red => exists_bind_iff fun green => exists_map_iff _

theorem Color.exists_hex_iff (color : Color) : (∃ hex, color.hex = .ok hex) ↔
    color.IsPaintable := by
  have faded (found : Nat × Nat × Nat) : (∃ hex, (if color.alpha < 1 then do
        let alpha ← channel color.alpha
        pure ("#" ++ hexPair found.1 ++ hexPair found.2.1 ++ hexPair found.2.2 ++ hexPair alpha)
      else pure ("#" ++ hexPair found.1 ++ hexPair found.2.1 ++ hexPair found.2.2) :
        DesignResult String) =
        .ok hex) ↔ (color.alpha < 1 → IsScaled color.alpha) := by
    split
    · rename_i faint
      rw [exists_map_iff, exists_channel_iff]
      exact ⟨fun h _ => h, fun h => h faint⟩
    · rename_i full
      exact iff_of_true ⟨_, rfl⟩ fun faint => absurd faint full
  refine (exists_bind_iff faded).trans ?_
  rw [exists_channels_iff]
  exact ⟨fun h => ⟨h.1.1, h.1.2.1, h.1.2.2, h.2⟩, fun h => ⟨⟨h.red, h.green, h.blue⟩, h.alpha⟩⟩

namespace Palette

/-- What some colors are written as, each once. -/
def hexes (colors : List Color) : Finset String :=
  (colors.filterMap fun color => color.hex.toOption).toFinset

/-- Every color that stands behind fewer different ones than a palette holds can be painted. -/
def IsPaintable (limit : Int) (colors : List Color) : Prop :=
  ∀ front color rest, colors = front ++ color :: rest → (hexes front).card < limit →
    color.IsPaintable

theorem hexes_cons {color : Color} {hex : String} (h : color.hex = .ok hex) (colors : List Color) :
    hexes (color :: colors) = insert hex (hexes colors) := by
  rw [hexes, List.filterMap_cons, h]
  exact List.toFinset_cons

/-- The texts found so far with one more, unless it is among them. -/
def added (hex : String) (found : List String) : List String :=
  if found.contains hex then found else found ++ [hex]

theorem nodup_added {found : List String} (nodup : found.Nodup) (hex : String) :
    (added hex found).Nodup := by
  unfold added
  split
  · exact nodup
  · rename_i new
    rw [← List.concat_eq_append]
    exact nodup.concat (by simpa using new)

theorem toFinset_added (hex : String) (found : List String) :
    (added hex found).toFinset = insert hex found.toFinset := by
  unfold added
  split
  · rename_i old
    exact (Finset.insert_eq_of_mem (by simpa using old)).symm
  · rw [List.toFinset_append, Finset.union_comm]
    rfl

theorem collectFrom_cons {color : Color} {hex : String} (h : color.hex = .ok hex) (limit : Int)
    (found : List String) (colors : List Color) : collectFrom limit found (color :: colors) =
      if limit ≤ (added hex found).length then .ok (added hex found)
      else collectFrom limit (added hex found) colors := by
  rw [collectFrom, h]
  rfl

/-- The colors behind some can be painted, given what those are written as. -/
def IsPaintableBehind (limit : Int) (found : Finset String) (colors : List Color) : Prop :=
  ∀ front color rest, colors = front ++ color :: rest → (found ∪ hexes front).card < limit →
    color.IsPaintable

theorem isPaintableBehind_of_le {limit : Int} {found : Finset String} (full : limit ≤ found.card)
    (colors : List Color) : IsPaintableBehind limit found colors := by
  intro front color rest _ few
  have more : found.card ≤ (found ∪ hexes front).card :=
    Finset.card_le_card Finset.subset_union_left
  omega

theorem isPaintable_of_isPaintableBehind {limit : Int} {found : Finset String} {color : Color}
    {colors : List Color} (room : found.card < limit)
      (h : IsPaintableBehind limit found (color :: colors)) :
    color.IsPaintable := by
  refine h [] color colors rfl ?_
  rwa [hexes, List.filterMap_nil, List.toFinset_nil, Finset.union_empty]

theorem isPaintableBehind_cons {color : Color} {hex : String} (h : color.hex = .ok hex)
    (limit : Int) (found : Finset String) (colors : List Color) :
    IsPaintableBehind limit found (color :: colors) ↔
      IsPaintableBehind limit (insert hex found) colors := by
  have union (front : List Color) :
      found ∪ hexes (color :: front) = insert hex found ∪ hexes front := by
    rw [hexes_cons h, Finset.union_insert, Finset.insert_union]
  constructor
  · intro all front other rest he few
    exact all (color :: front) other rest (by rw [he]; rfl) (union front ▸ few)
  · rintro all (_ | ⟨first, front⟩) other rest he few
    · obtain ⟨rfl, -⟩ := List.cons.inj he
      exact color.exists_hex_iff.mp ⟨hex, h⟩
    · obtain ⟨rfl, behind⟩ := List.cons.inj he
      exact all front other rest behind (union front ▸ few)

theorem exists_collectFrom_iff {limit : Int} {found : List String} (nodup : found.Nodup)
    (room : found.length < limit) (colors : List Color) :
    (∃ palette, collectFrom limit found colors = .ok palette) ↔
      IsPaintableBehind limit found.toFinset colors := by
  induction colors generalizing found with
  | nil => exact iff_of_true ⟨found, rfl⟩ fun front color rest h => by simp at h
  | cons color colors ih =>
    cases h : color.hex with
    | error fault =>
      refine iff_of_false ?_ fun all => ?_
      · rintro ⟨palette, hp⟩
        rw [collectFrom, h] at hp
        cases hp
      · rw [← List.toFinset_card_of_nodup nodup] at room
        obtain ⟨hex, hx⟩ := color.exists_hex_iff.mpr (isPaintable_of_isPaintableBehind room all)
        rw [h] at hx
        cases hx
    | ok hex =>
      have once : (added hex found).Nodup := nodup_added nodup hex
      rw [collectFrom_cons h, isPaintableBehind_cons h, ← toFinset_added]
      split
      · rename_i full
        rw [← List.toFinset_card_of_nodup once] at full
        exact iff_of_true ⟨_, rfl⟩ (isPaintableBehind_of_le full colors)
      · rename_i short
        exact ih once (Int.not_le.mp short)

/-- The palette of a design can be taken if and only if its colors can be painted. -/
theorem exists_collect_iff (root : Node) :
    (∃ palette, collect root defaultLimit = .ok palette) ↔
      IsPaintable defaultLimit (fillColors root.walk) := by
  rw [collect, exists_collectFrom_iff List.nodup_nil (by decide)]
  simp only [List.toFinset_nil, IsPaintableBehind, Finset.empty_union, IsPaintable]

end Palette

end Handoff
