import Handoff.Proofs.Text.Scan
import Handoff.Text.Lines

/-! # Pieces and lines of a composed text

A text is cut into pieces at each separator, so pieces that are free of it are found again when they
are put together with it. A mark without a newline stands in joined lines if it stands in one of
them.
-/

namespace Handoff.Text

variable {separator : Char} {front : List Char} {parts : List (List Char)}

theorem pieces_of_not_mem (h : separator ∉ front) : pieces separator front = [front] := by
  induction front with
  | nil => rfl
  | cons c front ih =>
    obtain ⟨hc, hf⟩ := List.ne_and_not_mem_of_not_mem_cons h
    have other : (c == separator) = false := beq_false_of_ne hc.symm
    rw [pieces, other, ih hf]
    rfl

theorem pieces_append_separator (separator : Char) (x y : List Char) :
    pieces separator (x ++ separator :: y) = pieces separator x ++ pieces separator y := by
  induction x with
  | nil => simp [pieces]
  | cons c x ih =>
    obtain ⟨piece, more, hp⟩ := List.exists_cons_of_ne_nil (pieces_ne_nil separator x)
    rw [List.cons_append, pieces, pieces, ih, hp]
    split <;> rfl

theorem lines_append (x y : List Char) : lines (x ++ '\n' :: y) = lines x ++ lines y :=
  pieces_append_separator '\n' x y

theorem pieces_append_cons (h : separator ∉ front) (rest : List Char) :
    pieces separator (front ++ separator :: rest) = front :: pieces separator rest := by
  rw [pieces_append_separator, pieces_of_not_mem h]
  rfl

theorem pieces_ended (free : ∀ part ∈ parts, separator ∉ part) (rest : List Char) :
    pieces separator (parts.flatMap (· ++ [separator]) ++ rest) = parts ++
      pieces separator rest := by
  induction parts with
  | nil => rfl
  | cons part parts ih =>
    obtain ⟨first, others⟩ := List.forall_mem_cons.mp free
    rw [List.flatMap_cons, List.append_assoc, List.append_assoc, List.singleton_append,
      pieces_append_cons first, ih others, List.cons_append]

theorem lines_ended (free : ∀ line ∈ parts, '\n' ∉ line) (rest : List Char) :
    lines (parts.flatMap (· ++ ['\n']) ++ rest) = parts ++ lines rest :=
  pieces_ended free rest

theorem lines_joined (free : ∀ line ∈ parts, '\n' ∉ line) (ne : parts ≠ []) :
    lines (joinWith ['\n'] parts) = parts := by
  induction parts with
  | nil => exact absurd rfl ne
  | cons line parts ih =>
    obtain ⟨first, others⟩ := List.forall_mem_cons.mp free
    cases parts with
    | nil => simpa [joinWith, lines] using pieces_of_not_mem first
    | cons next parts =>
      rw [joinWith, List.intercalate_cons_cons, List.append_assoc, List.singleton_append, lines,
        pieces_append_cons first, ← lines, ← joinWith, ih others (List.cons_ne_nil next parts)]

theorem joinWith_pieces (separator : Char) (text : List Char) :
    joinWith [separator] (pieces separator text) = text := by
  induction text with
  | nil => rfl
  | cons c rest ih =>
    obtain ⟨piece, more, hr⟩ := List.exists_cons_of_ne_nil (pieces_ne_nil separator rest)
    rw [hr, joinWith] at ih
    by_cases hc : c = separator
    · rw [pieces, if_pos (beq_iff_eq.mpr hc), hr, joinWith, List.intercalate_cons_cons, ih, hc]
      rfl
    · rw [pieces, if_neg (mt beq_iff_eq.mp hc), hr, joinWith]
      cases more with
      | nil => rw [← ih]; rfl
      | cons next more => rw [← ih, List.intercalate_cons_cons, List.intercalate_cons_cons]; rfl

theorem not_mem_of_mem_pieces {piece text : List Char} (h : piece ∈ pieces separator text) :
    separator ∉ piece := by
  induction text generalizing piece with
  | nil => simp_all [pieces]
  | cons c text ih =>
    obtain ⟨first, more, hp⟩ := List.exists_cons_of_ne_nil (pieces_ne_nil separator text)
    have behind : ∀ other ∈ first :: more, separator ∉ other := fun other hm => ih (hp ▸ hm)
    obtain ⟨free, others⟩ := List.forall_mem_cons.mp behind
    rw [pieces, hp] at h
    split at h
    · rcases List.mem_cons.mp h with rfl | h
      · exact List.not_mem_nil
      · exact behind piece h
    · rename_i other
      rcases List.mem_cons.mp h with rfl | h
      · exact List.not_mem_cons_of_ne_of_not_mem (fun same => other (beq_iff_eq.mpr same.symm)) free
      · exact others piece h

theorem lines_inj {x y : List Char} : lines x = lines y ↔ x = y := by
  refine ⟨fun h => ?_, congrArg lines⟩
  rw [← joinWith_pieces '\n' x, ← lines, h, lines, joinWith_pieces]

theorem toList_joinLines_cons (line : String) {more : List String} (filled : more ≠ []) :
    (joinLines (line :: more)).toList = line.toList ++ '\n' :: (joinLines more).toList := by
  rw [joinLines, String.intercalate_cons_of_ne_nil filled, String.toList_append,
    String.toList_append, List.append_assoc]
  rfl

theorem flatMap_newline {lines : List String} (ne : lines ≠ []) :
    lines.flatMap (fun line => '\n' :: line.toList) = '\n' :: (joinLines lines).toList := by
  induction lines with
  | nil => exact absurd rfl ne
  | cons line more ih =>
    rcases eq_or_ne more [] with rfl | filled
    · simp [joinLines]
    · rw [List.flatMap_cons, ih filled, joinLines, joinLines,
        String.intercalate_cons_of_ne_nil filled]
      simp

/-! ## Marks in lines -/

section Marks

variable {mark : List Char}

def Bears (mark : List Char) (texts : List String) : Prop := ∃ s ∈ texts, mark <:+: s.toList

theorem bears_append (mark : List Char) (x y : List String) :
    Bears mark (x ++ y) ↔ Bears mark x ∨ Bears mark y := by
  simp only [Bears, List.mem_append, or_and_right, exists_or]

theorem bears_cons (mark : List Char) (s : String) (more : List String) :
    Bears mark (s :: more) ↔ mark <:+: s.toList ∨ Bears mark more := by
  simp only [Bears, List.mem_cons, or_and_right, exists_or, exists_eq_left]

theorem not_bears_nil (mark : List Char) : ¬ Bears mark [] := fun ⟨_, hs, _⟩ => List.not_mem_nil hs

theorem bears_singleton (mark : List Char) (s : String) : Bears mark [s] ↔ mark <:+: s.toList := by
  rw [bears_cons, or_iff_left (not_bears_nil mark)]

theorem infix_joinLines_iff (ne : mark ≠ []) (newline : '\n' ∉ mark) (lines : List String) :
    mark <:+: (joinLines lines).toList ↔ Bears mark lines := by
  induction lines with
  | nil => exact iff_of_false (fun found => ne (List.infix_nil.mp found)) (not_bears_nil mark)
  | cons line more ih =>
    rcases eq_or_ne more [] with rfl | filled
    · rw [bears_singleton, joinLines, String.intercalate_singleton]
    · rw [toList_joinLines_cons line filled, infix_append_cons_iff newline, ih, bears_cons]

end Marks

/-! ## Lines below each other -/

section HasLines

variable {block lines' : List String} {x y : String}

/-- Lines that stand below each other in a text. -/
def HasLines (block : List String) (text : String) : Prop :=
  block.map String.toList <:+: lines text.toList

theorem HasLines.above (h : HasLines block x) (y : String) : HasLines block (x ++ "\n" ++ y) := by
  have split : (x ++ "\n" ++ y).toList = x.toList ++ '\n' :: y.toList := by simp
  rw [HasLines, split, lines_append]
  exact h.trans (List.prefix_append _ _).isInfix

theorem HasLines.below (h : HasLines block y) (x : String) : HasLines block (x ++ "\n" ++ y) := by
  have split : (x ++ "\n" ++ y).toList = x.toList ++ '\n' :: y.toList := by simp
  rw [HasLines, split, lines_append]
  exact h.trans (List.suffix_append _ _).isInfix

theorem lines_joinLines (ne : lines' ≠ []) :
    lines (joinLines lines').toList = lines'.flatMap fun line => lines line.toList := by
  induction lines' with
  | nil => exact absurd rfl ne
  | cons line more ih =>
    rcases eq_or_ne more [] with rfl | filled
    · simp [joinLines]
    · rw [toList_joinLines_cons line filled, lines_append, ih filled, List.flatMap_cons]

theorem flatMap_lines (free : ∀ line ∈ block, '\n' ∉ line.toList) :
    (block.flatMap fun line => lines line.toList) = block.map String.toList := by
  induction block with
  | nil => rfl
  | cons line block ih =>
    obtain ⟨first, others⟩ := List.forall_mem_cons.mp free
    rw [List.flatMap_cons, ih others, lines, pieces_of_not_mem first]
    rfl

theorem flatMap_lines_of_block (h : block <:+: lines') (free : ∀ line ∈ block, '\n' ∉ line.toList) :
    block.map String.toList <:+: lines'.flatMap fun line => lines line.toList := by
  obtain ⟨front, back, rfl⟩ := h
  rw [List.flatMap_append, List.flatMap_append, flatMap_lines free]
  exact List.infix_append _ _ _

theorem hasLines_joinLines (h : block <:+: lines') (free : ∀ line ∈ block, '\n' ∉ line.toList) :
    HasLines block (joinLines lines') := by
  rcases eq_or_ne lines' [] with rfl | ne
  · rw [List.infix_nil.mp h]
    exact List.nil_infix
  · rw [HasLines, lines_joinLines ne]
    exact flatMap_lines_of_block h free

end HasLines

end Handoff.Text
