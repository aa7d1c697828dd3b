import Handoff.Component.Artifacts
import Handoff.Proofs.Text.Blank
import Handoff.Text.Surrogate

/-! # Texts without surrogates

Both writings of a text without surrogates are the text itself. What is made of them is then the
same twice, so that it can be encoded. No private character is a space, and so the two writings of
any text are blank together.
-/

namespace Handoff.Text

variable {points : Points} {block : PrivateBlock}

def Points.HoldsSurrogate (points : Points) : Prop := ∃ index, Point.surrogate index ∈ points

theorem write_ofString (block : PrivateBlock) (text : String) :
    (Points.ofString text).write block = text := by
  rw [Points.write, Points.ofString, List.map_map]
  exact (congrArg String.ofList (List.map_id _)).trans String.ofList_toList

theorem eq_ofString_of_not_holdsSurrogate (plain : ¬ points.HoldsSurrogate) :
    points = Points.ofString (points.write .first) := by
  rw [Points.ofString, Points.write, String.toList_ofList, List.map_map]
  symm
  apply (List.map_congr_left _).trans (List.map_id points)
  intro point hp
  cases point with
  | char c => rfl
  | surrogate index => exact absurd ⟨index, hp⟩ plain

/-- A text that is the same in both writings holds no surrogate. -/
theorem ofWritings_self (text : String) : Points.ofWritings text text = Points.ofString text := by
  rw [Points.ofWritings, Points.ofString, List.zipWith_self]
  apply List.map_congr_left
  intro c _
  simp [Point.ofWritings]

theorem surrogateFault?_ofString (text : String) :
    surrogateFault? (Points.ofString text) = none := by
  have none_left : (Points.ofString text).dropWhile Point.isChar = [] := by
    rw [List.dropWhile_eq_nil_iff]
    exact List.forall_mem_map.mpr fun _ _ => rfl
  rw [surrogateFault?, none_left]

theorem dropWhile_ofString (text : String) (points : Points) :
    (Points.ofString text ++ points).dropWhile Point.isChar = points.dropWhile Point.isChar ∧
      (Points.ofString text ++ points).takeWhile Point.isChar =
        Points.ofString text ++ points.takeWhile Point.isChar := by
  have chars : ∀ point ∈ Points.ofString text, point.isChar = true :=
    List.forall_mem_map.mpr fun _ _ => rfl
  exact ⟨List.dropWhile_append_of_pos chars, List.takeWhile_append_of_pos chars⟩

/-- A surrogate between two texts is found behind the first of them. -/
theorem surrogateFault?_between (before after : String) (index : Fin 2048) :
    surrogateFault? (Points.ofString before ++ .surrogate index :: Points.ofString after) =
      some ⟨before.length, [.surrogate index]⟩ := by
  obtain ⟨dropped, taken⟩ := dropWhile_ofString before (.surrogate index :: Points.ofString after)
  have surrogate : (Point.surrogate index).isChar = false := rfl
  have alone : (Points.ofString after).takeWhile (!Point.isChar ·) = [] := by
    cases h : after.toList <;> simp [Points.ofString, h, Point.isChar]
  have length : (Points.ofString before).length = before.length := by
    rw [Points.ofString, List.length_map, String.length_toList]
  rw [surrogateFault?, dropped, taken]
  simp only [List.dropWhile_cons, List.takeWhile_cons, surrogate, alone, length,
    List.append_nil, Bool.false_eq_true, Bool.not_false, ↓reduceIte]

theorem ofWritings_between (before after : String) (c d : Char) :
    Points.ofWritings (before ++ String.ofList [c] ++ after)
        (before ++ String.ofList [d] ++ after) =
      Points.ofString before ++ Point.ofWritings c d :: Points.ofString after := by
  have same (text : String) :
      text.toList.zipWith Point.ofWritings text.toList = Points.ofString text :=
    ofWritings_self text
  simp only [Points.ofWritings, String.toList_append, String.toList_ofList, List.append_assoc]
  rw [List.zipWith_append rfl, same, List.singleton_append, List.singleton_append,
    List.zipWith_cons_cons, same]

theorem isSpace_private (block : PrivateBlock) (index : Fin 2048) :
    isSpace ((Point.surrogate index).write block) = false := by
  have range : 0xF0000 ≤ block.start + index ∧ block.start + index < 0x110000 := by
    cases block <;> simp only [PrivateBlock.start] <;> omega
  have code : ((Point.surrogate index).write block).toNat = block.start + index := by
    have valid : (block.start + index).isValidChar := .inr ⟨by omega, range.2⟩
    rw [Point.write, Char.ofNat, dif_pos valid]
    rfl
  have low : ∀ n ∈ spaceCodes, n < 0xF0000 := by decide
  rw [Bool.eq_false_iff]
  intro space
  have := low _ (mem_spaceCodes space)
  omega

theorem isBlankText_write (points : Points) (block other : PrivateBlock) :
    isBlankText (points.write block) = isBlankText (points.write other) := by
  have same (point : Point) : isSpace (point.write block) = isSpace (point.write other) := by
    cases point with
    | char c => rfl
    | surrogate index => rw [isSpace_private, isSpace_private]
  simp only [isBlankText, Points.write, String.toList_ofList, List.all_map, Function.comp_def, same]

end Handoff.Text
