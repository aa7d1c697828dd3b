import Handoff.Proofs.Stylesheet.Comment
import Handoff.Proofs.Stylesheet.Line

/-! # Places of findings

A finding is told by a line and a column of the stylesheet as it was written. The columns are worked
out in the line without its comments, from the offset of the text that is read, the pieces before a
declaration and the spaces in front of it. Blanking keeps every character at its place, so what is
found at a column of the blanked line stands there in the stylesheet as well.
-/

namespace Handoff.Stylesheet

open Text

variable {lineComments inside still : Bool} {number offset : Nat} {finding : Finding}
  {raw text front back body piece rest : List Char} {c : Char} {declaration : Declaration}

/-! ## Blanked lines -/

/-- A line and what it comes to with its comments blanked, if a comment is open before it or not,
and whether one is open behind it. A character of a comment becomes a space, and a line comment is
cut off. The star of the mark that opens a comment can be the star of the mark that ends it. -/
inductive IsBlanked (lineComments : Bool) : Bool → List Char → List Char → Bool → Prop
  | ended (inside : Bool) : IsBlanked lineComments inside [] [] inside
  | code {c : Char} {rest text : List Char} {still : Bool} : ¬ openMark <+: c :: rest →
    IsBlanked lineComments false rest text still →
    IsBlanked lineComments false (c :: rest) (c :: text) still
  | cut {rest : List Char} :
    lineComments = true → IsBlanked lineComments false ('/' :: '/' :: rest) [] false
  | opened {rest text : List Char} {still : Bool} :
    IsBlanked lineComments true ('*' :: rest) text still →
    IsBlanked lineComments false ('/' :: '*' :: rest) (' ' :: text) still
  | comment {c : Char} {rest text : List Char} {still : Bool} : ¬ closeMark <+: c :: rest →
    IsBlanked lineComments true rest text still →
    IsBlanked lineComments true (c :: rest) (' ' :: text) still
  | closed {rest text : List Char} {still : Bool} : IsBlanked lineComments false rest text still →
    IsBlanked lineComments true ('*' :: '/' :: rest) (' ' :: ' ' :: text) still

theorem IsBlanked.length_le (h : IsBlanked lineComments inside raw text still) :
    text.length ≤ raw.length := by
  induction h <;> simp only [List.length_cons, List.length_nil] at * <;> omega

/-- What stands in a blanked line, spaces apart, stands in the line. -/
theorem IsBlanked.mem (h : IsBlanked lineComments inside raw text still) (hc : c ≠ ' ')
    (hm : c ∈ text) :
    c ∈ raw := by
  induction h with
  | ended => exact hm
  | code _ _ ih => exact List.mem_cons.mpr ((List.mem_cons.mp hm).imp_right ih)
  | cut => cases hm
  | opened _ ih => exact List.mem_cons_of_mem _ (ih (List.mem_of_ne_of_mem hc hm))
  | comment _ _ ih => exact List.mem_cons_of_mem _ (ih (List.mem_of_ne_of_mem hc hm))
  | closed _ ih =>
    have kept := ih (List.mem_of_ne_of_mem hc (List.mem_of_ne_of_mem hc hm))
    exact List.mem_cons_of_mem _ (List.mem_cons_of_mem _ kept)

/-- A walk over a line blanks it, outside of comments and within one. -/
theorem isBlanked_blankFrom (lineComments : Bool) : (raw : List Char) →
    (∀ armed before, IsBlanked lineComments false raw
      (blankFrom lineComments (.code armed) before raw).1
      (blankFrom lineComments (.code armed) before raw).2) ∧
    ∀ before, IsBlanked lineComments true raw (blankFrom lineComments .inside before raw).1
      (blankFrom lineComments .inside before raw).2
  | [] => ⟨fun _ _ => .ended false, fun _ => .ended true⟩
  | c :: rest => by
    obtain ⟨outside, within⟩ := isBlanked_blankFrom lineComments rest
    constructor
    · intro armed before
      by_cases mark : openMark <+: c :: rest
      · obtain ⟨body, hb⟩ := mark
        obtain ⟨rfl, rfl⟩ := List.cons.inj hb
        exact .opened (within (some '/'))
      · have unopened : (c == '/' && rest.head? == some '*') = false := by
          rw [← isPrefixOf_pair, Bool.eq_false_iff]
          exact fun start => mark (List.isPrefixOf_iff_prefix.mp start)
        rw [blankFrom, unopened, if_neg Bool.false_ne_true]
        split
        · rename_i slashes
          simp only [Bool.and_eq_true, beq_iff_eq] at slashes
          obtain ⟨⟨⟨allowed, -⟩, rfl⟩, second⟩ := slashes
          obtain ⟨tail, rfl⟩ := List.head?_eq_some_iff.mp second
          split
          · exact .code mark (outside _ _)
          · exact .cut allowed
        · exact .code mark (outside _ _)
    · intro before
      by_cases mark : closeMark <+: c :: rest
      · obtain ⟨tail, ht⟩ := mark
        obtain ⟨rfl, rfl⟩ := List.cons.inj ht
        exact .closed ((isBlanked_blankFrom lineComments tail).1 _ _)
      · have unclosed : (c == '*' && rest.head? == some '/') = false := by
          rw [← isPrefixOf_pair, Bool.eq_false_iff]
          exact fun start => mark (List.isPrefixOf_iff_prefix.mp start)
        rw [blankFrom, unclosed, if_neg Bool.false_ne_true]
        exact .comment mark (within _)
termination_by raw => raw.length

theorem isBlanked_blankComments (lineComments inside : Bool) (raw : List Char) :
    IsBlanked lineComments inside raw (blankComments lineComments inside raw).1
      (blankComments lineComments inside raw).2 := by
  obtain ⟨outside, within⟩ := isBlanked_blankFrom lineComments raw
  cases inside with
  | false => exact outside true none
  | true => exact within none

/-- Lines that follow each other are blanked with the open comment carried on. -/
inductive AreBlanked (lineComments : Bool) : Bool → List (List Char) → List (List Char) → Prop
  | nil (inside : Bool) : AreBlanked lineComments inside [] []
  | cons {inside still : Bool} {raw text : List Char} {raws texts : List (List Char)} :
    IsBlanked lineComments inside raw text still → AreBlanked lineComments still raws texts →
    AreBlanked lineComments inside (raw :: raws) (text :: texts)

def readLines (lineComments : Bool) : Bool → List (List Char) → List (List Char)
  | _, [] => []
  | inside, raw :: raws =>
    (blankComments lineComments inside raw).1 ::
      readLines lineComments (blankComments lineComments inside raw).2 raws

theorem areBlanked_readLines (lineComments inside : Bool) (raws : List (List Char)) :
    AreBlanked lineComments inside raws (readLines lineComments inside raws) := by
  induction raws generalizing inside with
  | nil => exact .nil inside
  | cons raw raws ih => exact .cons (isBlanked_blankComments lineComments inside raw) (ih _)

/-! ## Places of declarations -/

/-- The columns of a declaration are places of a line: the property stands at its column, and the
value has a column in the line or just behind it. -/
structure Declaration.StandsIn (text : List Char) (declaration : Declaration) : Prop where
  solid : ∃ c ∈ declaration.property, isSpace c = false
  column : 1 ≤ declaration.column
  property : declaration.property <+: text.drop (declaration.column - 1)
  valueColumn : 1 ≤ declaration.valueColumn
  value : declaration.valueColumn ≤ text.length + 1

theorem ofPiece?_standsIn (split : text = front ++ piece ++ back)
    (h : Declaration.ofPiece? front.length piece = some declaration) :
    declaration.StandsIn text := by
  unfold Declaration.ofPiece? at h
  split at h
  · cases h
  · rename_i before after cut
    dsimp only at h
    split at h
    · cases h
    · rename_i named
      cases h
      have named : trim before ≠ [] := by simpa using named
      have cut := cutAt_eq_some cut
      obtain ⟨gap, behind, around, spaces, -⟩ := trimBoth_around isSpace before
      rw [← trim] at around
      obtain ⟨c, property, filled⟩ := List.exists_cons_of_ne_nil named
      have solid : isSpace c = false :=
        head?_trimBoth isSpace before c (by rw [← trim, filled]; rfl)
      have leading : piece.takeWhile isSpace = gap := by
        rw [cut, around, filled, List.append_assoc, List.append_assoc, List.append_assoc,
          List.takeWhile_append_of_pos spaces, List.cons_append,
          List.takeWhile_cons_of_neg (by simp [solid]), List.append_nil]
      have placed :
          text = (front ++ gap) ++ (trim before ++ (behind ++ ':' :: (after ++ back))) := by
        rw [split, cut]
        conv_lhs => rw [around]
        simp
      constructor
      · exact ⟨c, by simp [filled], solid⟩
      · exact Nat.succ_pos _
      · have column : (front ++ gap).length = front.length + (piece.takeWhile isSpace).length := by
          rw [leading, List.length_append]
        rw [Nat.add_sub_cancel, ← column, placed, List.drop_left]
        exact List.prefix_append _ _
      · exact Nat.succ_pos _
      · rw [split, cut]
        simp only [List.length_append, List.length_cons, List.length_nil]
        omega

theorem declarationsOf_standsIn {pieces : List (List Char)}
    (split : text = front ++ joinWith [';'] pieces ++ back)
    (h : declaration ∈ declarationsOf front.length pieces) : declaration.StandsIn text := by
  induction pieces generalizing front with
  | nil => cases h
  | cons piece pieces ih =>
    rw [declarationsOf, List.mem_append, Option.mem_toList] at h
    cases pieces with
    | nil =>
      rcases h with h | h
      · exact ofPiece?_standsIn (by simpa [joinWith] using split) h
      · cases h
    | cons next pieces =>
      rw [joinWith, List.intercalate_cons_cons, ← joinWith] at split
      rcases h with h | h
      · have split :
            text = front ++ piece ++ ([';'] ++ joinWith [';'] (next :: pieces) ++ back) := by
          simpa using split
        exact ofPiece?_standsIn split h
      · have behind : (front ++ piece ++ [';']).length = front.length + piece.length + 1 := by
          simp only [List.length_append, List.length_singleton]
        rw [← behind] at h
        exact ih (by simpa using split) h

theorem declarations_standsIn (split : text = front ++ body)
    (h : declaration ∈ declarations front.length body) :
    declaration.StandsIn text := by
  have split : text = front ++ joinWith [';'] (pieces ';' (body.takeWhile (· != '\x7d'))) ++
      body.dropWhile (· != '\x7d') := by
    rw [joinWith_pieces, List.append_assoc, List.takeWhile_append_dropWhile, split]
  exact declarationsOf_standsIn split h

/-! ## Places of findings -/

/-- A finding points at a line of a stylesheet, at a column of this line or just behind it. A
property that is told as unknown stands there with the comments blanked. -/
structure PointsAt (number : Nat) (raw text : List Char) (finding : Finding) : Prop where
  line : finding.line = number
  first : 1 ≤ finding.column
  last : finding.column ≤ raw.length + 1
  property : ∀ property : String, finding.message = "Unknown CSS property: " ++ property →
    property ≠ "" ∧ property.toList <+: text.drop (finding.column.toNat - 1)

theorem ne_unknown {message : String} (h : ¬ "Unknown".toList <+: message.toList)
    (property : String) :
    message ≠ "Unknown CSS property: " ++ property := by
  rintro rfl
  refine h ?_
  rw [String.toList_append]
  exact (show "Unknown".toList <+: "Unknown CSS property: ".toList by decide).trans
    (List.prefix_append _ _)

theorem pointsAt_selector {selector : List Char} (h : finding ∈ checkSelector number selector) :
    PointsAt number raw text finding := by
  unfold checkSelector at h
  split at h
  · cases h
  · rw [List.mem_singleton.mp h]
    refine ⟨rfl, le_rfl, by simp, fun property said => absurd said (ne_unknown ?_ property)⟩
    dsimp only
    split
    · decide
    · simp

theorem pointsAt_declaration (blanked : IsBlanked lineComments inside raw text still)
    (stands : declaration.StandsIn text) (h : finding ∈ checkDeclaration number declaration) :
    PointsAt number raw text finding := by
  have kept := blanked.length_le
  have value := stands.value
  have valueColumn := stands.valueColumn
  have column := stands.column
  obtain ⟨c, solid, -⟩ := stands.solid
  have reached : declaration.column - 1 + declaration.property.length ≤ text.length := by
    have fits := stands.property.length_le
    have filled := List.length_pos_of_mem solid
    rw [List.length_drop] at fits
    omega
  unfold checkDeclaration at h
  split at h
  · cases h
  · rcases List.mem_append.mp h with h | h
    · split at h
      · cases h
      · rw [List.mem_singleton.mp h]
        refine ⟨rfl, Int.ofNat_le.mpr column, ?_, fun property said => ?_⟩
        · change (declaration.column : Int) ≤ raw.length + 1
          omega
        · obtain rfl := (String.append_right_inj _).mp said
          rw [String.toList_ofList]
          refine ⟨fun none => List.ne_nil_of_mem solid ?_, stands.property⟩
          simpa using congrArg String.toList none
    · obtain ⟨fault, -, rfl⟩ := Option.map_eq_some_iff.mp (Option.mem_toList.mp h)
      refine ⟨rfl, Int.ofNat_le.mpr valueColumn, ?_, fun property said =>
        absurd said (ne_unknown ?_ property)⟩
      · change (declaration.valueColumn : Int) ≤ raw.length + 1
        omega
      · change ¬ "Unknown".toList <+: fault.message.toList
        cases fault <;> decide

theorem pointsAt_semicolon (blanked : IsBlanked lineComments inside raw text still)
    (stands : declaration.StandsIn text) :
    PointsAt number raw text (missingSemicolon number raw) := by
  obtain ⟨c, named, solid⟩ := stands.solid
  have written : c ∈ raw := by
    refine blanked.mem ?_ (List.mem_of_mem_drop (stands.property.subset named))
    rintro rfl
    exact absurd solid (by decide)
  have filled : trimEnd raw ≠ [] := by
    intro none
    rw [trimEnd, ← List.rdropWhile, List.rdropWhile_eq_nil_iff] at none
    exact absurd (none c written) (by simp [solid])
  have unlike : ¬ "Unknown".toList <+: "Missing semicolon".toList := by decide
  refine ⟨rfl, ?_, ?_, fun property said => absurd said (ne_unknown unlike property)⟩
  · change (1 : Int) ≤ (trimEnd raw).length
    have := List.length_pos_of_ne_nil filled
    omega
  · change ((trimEnd raw).length : Int) ≤ raw.length + 1
    have := (List.rdropWhile_prefix isSpace raw).length_le
    rw [trimEnd, ← List.rdropWhile]
    omega

theorem pointsAt_found (blanked : IsBlanked lineComments inside raw text still)
    (h : IsFound number raw text finding) : PointsAt number raw text finding := by
  cases h with
  | selector h => exact pointsAt_selector h
  | declaration split declared h =>
    exact pointsAt_declaration blanked (declarations_standsIn split declared) h
  | semicolon split declared =>
    obtain ⟨declaration, more, found⟩ := List.exists_cons_of_ne_nil declared
    exact pointsAt_semicolon blanked (declarations_standsIn split (found ▸ List.mem_cons_self))

theorem pointsAt_unmatched (number : Nat) (raw text : List Char) :
    PointsAt number raw text (unmatchedBraces number) := by
  have unlike : ¬ "Unknown".toList <+: "Unmatched braces in CSS".toList := by decide
  refine ⟨rfl, le_rfl, ?_, fun property said => absurd said (ne_unknown unlike property)⟩
  change (1 : Int) ≤ raw.length + 1
  omega

/-! ## Places in a stylesheet -/

def PointsInto (number : Nat) (raws texts : List (List Char)) (finding : Finding) : Prop :=
  ∃ place raw text, raws[place]? = some raw ∧ texts[place]? = some text ∧
    PointsAt (number + place) raw text finding

theorem PointsInto.cons {raws texts : List (List Char)}
    (h : PointsInto (number + 1) raws texts finding)
    (raw text : List Char) : PointsInto number (raw :: raws) (text :: texts) finding := by
  obtain ⟨place, found, blanked, hf, hb, points⟩ := h
  refine ⟨place + 1, found, blanked, hf, hb, ?_⟩
  rwa [Nat.add_right_comm] at points

theorem PointsInto.line_le {raws texts : List (List Char)}
    (h : PointsInto number raws texts finding) :
    (number : Int) ≤ finding.line := by
  obtain ⟨place, _, _, -, -, points⟩ := h
  rw [points.line]
  omega

/-- What is found in some lines is told from the first line to the last, with its places. Behind the
last line only its braces are left to be told of. -/
theorem checkLines_places (lineComments : Bool) (state : CheckState) (number : Nat)
    (raw : List Char) (raws : List (List Char)) :
    (checkLines lineComments state number (raw :: raws)).Pairwise (fun a b => a.line ≤ b.line) ∧
    ∀ finding ∈ checkLines lineComments state number (raw :: raws),
      PointsInto number (raw :: raws) (readLines lineComments state.inComment (raw :: raws))
        finding := by
  have blanked := isBlanked_blankComments lineComments state.inComment raw
  have own : ∀ finding ∈ (checkLine lineComments state number raw).1,
      PointsAt number raw (blankComments lineComments state.inComment raw).1 finding :=
    fun finding found => pointsAt_found blanked (isFound_of_mem found)
  have level : (checkLine lineComments state number raw).1.Pairwise fun a b => a.line ≤ b.line :=
    List.pairwise_of_forall_mem_list fun a ha b hb => by rw [(own a ha).line, (own b hb).line]
  have here {finding : Finding} (raws texts : List (List Char))
      (points : PointsAt number raw (blankComments lineComments state.inComment raw).1 finding) :
      PointsInto number (raw :: raws)
        ((blankComments lineComments state.inComment raw).1 :: texts) finding :=
    ⟨0, _, _, rfl, rfl, points⟩
  obtain ⟨-, comment⟩ := checkLine_state lineComments state number raw
  rw [checkLines, readLines, List.pairwise_append, List.forall_mem_append]
  cases raws with
  | nil =>
    have last : ∀ finding ∈ checkLines lineComments (checkLine lineComments state number raw).2
        (number + 1) [], finding = unmatchedBraces number := by
      intro finding found
      rw [checkLines] at found
      split at found
      · cases found
      · exact List.mem_singleton.mp found
    refine ⟨⟨level, ?_, ?_⟩, fun finding found => here [] _ (own finding found), ?_⟩
    · rw [checkLines]
      split
      · exact .nil
      · exact List.pairwise_singleton _ _
    · intro a ha b hb
      rw [(own a ha).line, last b hb]
      exact le_rfl
    · intro finding found
      rw [last finding found]
      exact here [] _ (pointsAt_unmatched number raw _)
  | cons next raws =>
    obtain ⟨ordered, behind⟩ :=
      checkLines_places lineComments (checkLine lineComments state number raw).2
        (number + 1) next raws
    rw [comment] at behind
    refine ⟨⟨level, ordered, ?_⟩, fun finding found => here _ _ (own finding found), ?_⟩
    · intro a ha b hb
      have later := (behind b hb).line_le
      rw [(own a ha).line]
      omega
    · exact fun finding found => (behind finding found).cons raw _
termination_by raws.length

/-- Every finding has a place. The findings come in the order of their lines; each points at a line
that is there and at a column in it or just behind it; and an unknown property stands at the column
that is told, in the line with its comments blanked, which has a space for each character of a
comment and else what the stylesheet has there. -/
theorem findings_placed (lineComments : Bool) (source : List Char) :
    (check lineComments source).Pairwise (fun a b => a.line ≤ b.line) ∧
    AreBlanked lineComments false (lines source) (readLines lineComments false (lines source)) ∧
    ∀ finding ∈ check lineComments source,
      PointsInto 1 (lines source) (readLines lineComments false (lines source)) finding := by
  obtain ⟨raw, raws, first⟩ := List.exists_cons_of_ne_nil (pieces_ne_nil '\n' source)
  have places := checkLines_places lineComments {} 1 raw raws
  rw [← first] at places
  exact ⟨places.1, areBlanked_readLines lineComments false (lines source), places.2⟩

end Handoff.Stylesheet
