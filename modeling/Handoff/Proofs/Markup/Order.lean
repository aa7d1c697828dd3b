import Handoff.Proofs.Markup.Nesting
import Handoff.Proofs.Text.Position

/-! # The order of findings

A tag is found at its bracket, and a plain name of an attribute at its front. Both scans walk
through the source, so that each of them meets its places one behind the other. No name stands where
a tag stands, and sorting by position therefore puts what both have found in the order of the
source.
-/

namespace Handoff.Markup

open Text

variable {source text : List Char} {before : Option Char} {place p q : Position}
  {skip i j : ℕ} {tag : Tag}
  {stack tags : List Tag} {finding a b : Finding} {findings : List Finding}

/-! ## The scan for tags -/

def Tag.front (tag : Tag) : List Char := '<' :: ((if tag.closing then ['/'] else []) ++ tag.name)

theorem prefix_of_tagName? {name : List Char} (h : tagName? text = some name) : name <+: text := by
  cases text with
  | nil => cases h
  | cons c rest =>
    obtain ⟨-, found⟩ := Option.ite_none_right_eq_some.mp h
    cases found
    exact (List.prefix_cons_inj c).mpr (List.takeWhile_prefix _)

theorem front_of_tagAt? {length : ℕ} (h : tagAt? before place text = some (tag, length)) :
    tag.place = place ∧ tag.front <+: text := by
  unfold tagAt? at h
  split at h
  case h_2 => cases h
  case h_1 rest =>
    dsimp only at h
    split at h
    case h_1 name opening =>
      cases h
      refine ⟨rfl, (List.prefix_cons_inj '<').mpr ?_⟩
      exact prefix_of_tagName? (Option.ite_none_right_eq_some.mp opening).2
    case h_2 =>
      split at h
      case h_2 => cases h
      case h_1 rest =>
        obtain ⟨name, named, found⟩ := Option.map_eq_some_iff.mp h
        cases found
        exact ⟨rfl, (List.prefix_append_right_inj ['<', '/']).mpr (prefix_of_tagName? named)⟩

theorem readsAt_of_mem_tagsFrom (h : tag ∈ tagsFrom before place skip text) :
    ReadsAt tag.front tag.place place text := by
  induction text generalizing before place skip with
  | nil =>
    unfold tagsFrom at h
    cases h
  | cons c rest ih =>
    cases skip with
    | succ skip => exact .later (ih h)
    | zero =>
      unfold tagsFrom at h
      split at h
      · rename_i first _ found
        rcases List.mem_cons.mp h with rfl | later
        · obtain ⟨rfl, front⟩ := front_of_tagAt? found
          exact .here front
        · exact .later (ih later)
      · exact .later (ih h)

theorem pairwise_tagsFrom (before : Option Char) (place : Position) (skip : ℕ) (text : List Char) :
    (tagsFrom before place skip text).Pairwise fun s t => s.place.Before t.place := by
  induction text generalizing before place skip with
  | nil =>
    unfold tagsFrom
    exact .nil
  | cons c rest ih =>
    cases skip with
    | succ skip => exact ih _ _ _
    | zero =>
      unfold tagsFrom
      split
      · rename_i first _ found
        obtain ⟨rfl, -⟩ := front_of_tagAt? found
        refine .cons ?_ (ih _ _ _)
        intro later hl
        exact (readsAt_of_mem_tagsFrom hl).before
      · exact ih _ _ _

/-! ## The scan for plain names -/

/-- The plain names that are looked for, each with the name that should stand in its place. -/
def wrongNames : List (String × String) := [("class", "className"), ("for", "htmlFor")]

/-- The scan finds a name at the place where it is, or nothing, and goes on behind the next
character. -/
theorem plainNamesFrom_cons (before : Option Char) (place : Position) (c : Char)
    (rest : List Char) :
    plainNamesFrom before place (c :: rest) = plainNamesFrom (some c) (place.advance c) rest ∨
      ∃ names ∈ wrongNames, (names.1 ++ "=").toList <+: c :: rest ∧
      plainNamesFrom before place (c :: rest) =
        plainNameFinding names.1 names.2 place :: plainNamesFrom (some c)
          (place.advance c) rest := by
  conv => enter [1, 1]; unfold plainNamesFrom
  rw [plainNamesFrom]
  split
  · exact .inl rfl
  · split
    · rename_i front
      exact .inr ⟨_, .head _, List.isPrefixOf_iff_prefix.mp front, rfl⟩
    · split
      · rename_i front
        exact .inr ⟨_, .tail _ (.head _), List.isPrefixOf_iff_prefix.mp front, rfl⟩
      · exact .inl rfl

theorem readsAt_of_mem_plainNamesFrom (h : finding ∈ plainNamesFrom before place text) :
    ∃ names ∈ wrongNames, ∃ spot, finding = plainNameFinding names.1 names.2 spot ∧
      ReadsAt (names.1 ++ "=").toList spot place text := by
  induction text generalizing before place with
  | nil => cases h
  | cons c rest ih =>
    have later (h : finding ∈ plainNamesFrom (some c) (place.advance c) rest) :
        ∃ names ∈ wrongNames, ∃ spot, finding = plainNameFinding names.1 names.2 spot ∧
          ReadsAt (names.1 ++ "=").toList spot place (c :: rest) := by
      obtain ⟨names, listed, spot, found, reads⟩ := ih h
      exact ⟨names, listed, spot, found, .later reads⟩
    rcases plainNamesFrom_cons before place c rest with step | ⟨names, listed, front, step⟩
    · exact later (step ▸ h)
    · rw [step] at h
      rcases List.mem_cons.mp h with rfl | h
      · exact ⟨names, listed, place, rfl, .here front⟩
      · exact later h

/-! ## The order of findings -/

/-- One finding stands before another one, by lines and by columns within a line. -/
def Precedes (a b : Finding) : Prop := a.line < b.line ∨ a.line = b.line ∧ a.column < b.column

def Distinct (a b : Finding) : Prop := ¬ (a.line = b.line ∧ a.column = b.column)

theorem Precedes.distinct (h : Precedes a b) : Distinct a b := by
  unfold Precedes at h
  unfold Distinct
  omega

theorem Distinct.symm (h : Distinct a b) : Distinct b a := fun same => h ⟨same.1.symm, same.2.symm⟩

theorem Distinct.precedes (distinct : Distinct a b) (h : standsBefore a b = true) :
    Precedes a b := by
  simp only [standsBefore, Bool.or_eq_true, Bool.and_eq_true, decide_eq_true_eq, beq_iff_eq] at h
  unfold Distinct at distinct
  unfold Precedes
  omega

/-- Sorting by position puts findings in a strict order, if no two of them stand at one position. -/
theorem pairwise_mergeSort_precedes (h : findings.Pairwise Distinct) :
    (findings.mergeSort standsBefore).Pairwise Precedes := by
  have sorted : (findings.mergeSort standsBefore).Pairwise fun a b => standsBefore a b = true := by
    apply List.pairwise_mergeSort
    · simp only [standsBefore, Bool.or_eq_true, Bool.and_eq_true, decide_eq_true_eq, beq_iff_eq]
      omega
    · simp only [standsBefore, Bool.or_eq_true, Bool.and_eq_true, decide_eq_true_eq, beq_iff_eq]
      omega
  have distinct : (findings.mergeSort standsBefore).Pairwise Distinct :=
    (List.mergeSort_perm findings standsBefore).symm.pairwise h Distinct.symm
  exact sorted.imp₂ (fun _ _ inOrder apart => apart.precedes inOrder) distinct

structure IsAt (finding : Finding) (p : Position) : Prop where
  line : finding.line = p.line
  column : finding.column = p.column

theorem IsAt.precedes_iff (ha : IsAt a p) (hb : IsAt b q) : Precedes a b ↔ p.Before q := by
  unfold Precedes Position.Before
  rw [ha.line, ha.column, hb.line, hb.column]
  omega

theorem IsAt.position_eq (ha : IsAt a p) (hb : IsAt b q)
    (same : a.line = b.line ∧ a.column = b.column) : p = q := by
  obtain ⟨lines, columns⟩ := same
  rw [ha.line, hb.line] at lines
  rw [ha.column, hb.column] at columns
  cases p
  cases q
  congr 1
  · exact Int.ofNat_inj.mp lines
  · exact Int.ofNat_inj.mp columns

def TagFault.closingTag : TagFault → Tag
  | unexpected tag => tag
  | mismatched tag _ => tag

theorem isAt_fault (jsx : Bool) (fault : TagFault) :
    IsAt (fault.toFinding jsx) fault.closingTag.place := by
  cases fault <;> exact ⟨rfl, rfl⟩

theorem isAt_unclosed (jsx : Bool) (tag : Tag) : IsAt (unclosedFinding jsx tag) tag.place :=
  ⟨rfl, rfl⟩

theorem isAt_plainName (plain jsx : String) (place : Position) :
    IsAt (plainNameFinding plain jsx place) place :=
  ⟨rfl, rfl⟩

theorem pairwise_plainNamesFrom (before : Option Char) (place : Position) (text : List Char) :
    (plainNamesFrom before place text).Pairwise Precedes := by
  induction text generalizing before place with
  | nil => exact .nil
  | cons c rest ih =>
    rcases plainNamesFrom_cons before place c rest with step | ⟨names, -, -, step⟩
    · rw [step]
      exact ih _ _
    · rw [step]
      refine .cons ?_ (ih _ _)
      intro later hl
      obtain ⟨_, -, spot, rfl, reads⟩ := readsAt_of_mem_plainNamesFrom hl
      exact ((isAt_plainName _ _ place).precedes_iff (isAt_plainName _ _ spot)).mpr reads.before

/-- The faults are about closing tags, in the order in which these were met. -/
theorem faults_sublist (stack tags : List Tag) :
    ((balance stack tags).1.map TagFault.closingTag).Sublist (tags.filter (·.closing)) := by
  induction tags generalizing stack with
  | nil => exact .slnil
  | cons tag tags ih =>
    cases closing : tag.closing with
    | false => simpa [balance, closing] using ih (tag :: stack)
    | true =>
      cases stack with
      | nil => simpa [balance, closing, TagFault.closingTag] using ih []
      | cons top below =>
        simp only [balance, closing, Bool.not_true, Bool.false_eq_true, if_false, List.filter_cons]
        split
        · exact (ih below).cons tag
        · exact (ih _).cons_cons tag

/-! ## What findings point at -/

structure Tag.StandsAt (source : List Char) (offset : ℕ) (tag : Tag) : Prop where
  found : tag ∈ tagsOf source
  place : tag.place = positionAt source offset
  front : tag.front <+: source.drop offset

theorem exists_standsAt (h : tag ∈ tagsOf source) : ∃ offset, tag.StandsAt source offset := by
  obtain ⟨offset, place, front⟩ := (readsAt_of_mem_tagsFrom h).exists_offset
  exact ⟨offset, h, place, front⟩

inductive PointsAt (source : List Char) (offset : ℕ) : Finding → Prop
  | fault (fault : TagFault) :
    fault.closingTag.closing = true → fault.closingTag.StandsAt source offset →
    PointsAt source offset (fault.toFinding true)
  | unclosed (tag : Tag) : tag.closing = false → tag.StandsAt source offset →
    PointsAt source offset (unclosedFinding true tag)
  | plainName (names : String × String) :
    names ∈ wrongNames → (names.1 ++ "=").toList <+: source.drop offset →
    PointsAt source offset (plainNameFinding names.1 names.2 (positionAt source offset))

theorem PointsAt.isAt (h : PointsAt source i finding) : IsAt finding (positionAt source i) := by
  cases h with
  | fault fault _ stands => exact stands.place ▸ isAt_fault true fault
  | unclosed tag _ stands => exact stands.place ▸ isAt_unclosed true tag
  | plainName names => exact isAt_plainName names.1 names.2 _

theorem PointsAt.getElem? (h : PointsAt source i finding) :
    ∃ c, source[i]? = some c ∧ (c = '<' ↔ isTagFinding finding = true) := by
  have first {c : Char} {piece : List Char} (front : c :: piece <+: source.drop i) :
      source[i]? = some c := by
    obtain ⟨rest, split⟩ := front
    rw [← List.head?_drop, ← split]
    rfl
  cases h with
  | fault fault _ stands => exact ⟨'<', first stands.front, by simp [isTagFinding_fault]⟩
  | unclosed tag _ stands =>
    exact ⟨'<', first stands.front, by simp [isTagFinding, unclosedFinding, findingAt]⟩
  | plainName names listed front =>
    rcases List.mem_pair.mp listed with rfl | rfl
    · exact ⟨'c', first front, by simp [isTagFinding_plainName]⟩
    · exact ⟨'f', first front, by simp [isTagFinding_plainName]⟩

theorem PointsAt.lt_length (h : PointsAt source i finding) : i < source.length := by
  obtain ⟨_, written, _⟩ := h.getElem?
  exact (List.getElem?_eq_some_iff.mp written).1

theorem PointsAt.precedes_iff (ha : PointsAt source i a) (hb : PointsAt source j b) :
    Precedes a b ↔ i < j := by
  rw [ha.isAt.precedes_iff hb.isAt]
  exact positionAt_before_iff (Nat.le_of_lt ha.lt_length) (Nat.le_of_lt hb.lt_length)

theorem PointsAt.distinct (ha : PointsAt source i a) (hb : PointsAt source j b)
    (other : isTagFinding a ≠ isTagFinding b) : Distinct a b := by
  intro same
  obtain ⟨c, written, tag_iff⟩ := ha.getElem?
  obtain ⟨d, written', tag_iff'⟩ := hb.getElem?
  obtain rfl : i = j := positionAt_inj (Nat.le_of_lt ha.lt_length) (Nat.le_of_lt hb.lt_length)
    (ha.isAt.position_eq hb.isAt same)
  obtain rfl : c = d := Option.some.inj (written.symm.trans written')
  exact other (Bool.eq_iff_iff.mpr (tag_iff.symm.trans tag_iff'))

/-- Findings point at places one behind the other, and stand at the positions that the table of
lines gives for these. -/
def InSourceOrder (source : List Char) (findings : List Finding) : Prop :=
  ∃ offsetOf : Finding → ℕ, (∀ finding ∈ findings, PointsAt source (offsetOf finding) finding ∧
    IsAt finding (locate source (offsetOf finding))) ∧ (findings.map offsetOf).Pairwise (· < ·)

theorem inSourceOrder_of_precedes (points : ∀ finding ∈ findings, ∃ offset,
    PointsAt source offset finding)
    (ordered : findings.Pairwise Precedes) : InSourceOrder source findings := by
  choose! offsetOf points using points
  refine ⟨offsetOf, ?_, List.pairwise_map.mpr (ordered.imp_of_mem ?_)⟩
  · intro finding hf
    have point := points finding hf
    exact ⟨point, locate_eq_positionAt (Nat.le_of_lt point.lt_length) ▸ point.isAt⟩
  · intro a b ha hb before
    exact ((points a ha).precedes_iff (points b hb)).mp before

/-! ## The findings of a source -/

section Findings

variable (source : List Char)

/-- Findings about tags that were met one behind the other are in the order of these. -/
theorem pairwise_map_of_sublist {α : Type} {l : List α} {tagOf : α → Tag} {toFinding : α → Finding}
    (met : (l.map tagOf).Sublist (tagsOf source)) (isAt : ∀ x, IsAt (toFinding x) (tagOf x).place) :
    (l.map toFinding).Pairwise Precedes := by
  have ordered := List.pairwise_map.mp ((pairwise_tagsFrom none .start 0 source).sublist met)
  refine List.pairwise_map.mpr (ordered.imp ?_)
  intro x y before
  exact ((isAt x).precedes_iff (isAt y)).mpr before

theorem faults_met :
    ((balance [] (countedTags true source)).1.map TagFault.closingTag).Sublist
      ((tagsOf source).filter (·.closing)) :=
  (faults_sublist [] _).trans (List.filter_sublist.filter _)

theorem unclosed_met :
    (balance [] (countedTags true source)).2.reverse.Sublist
      ((tagsOf source).filter (!·.closing)) :=
  (left_sublist [] _).trans (List.filter_sublist.filter _)

theorem of_mem_faults (h : finding ∈ (balance [] (countedTags true source)).1.map
    (·.toFinding true)) :
    isTagFinding finding = true ∧ isUnclosed finding = false ∧ ∃ offset,
    PointsAt source offset finding := by
  obtain ⟨fault, hf, rfl⟩ := List.mem_map.mp h
  obtain ⟨found, closing⟩ :=
    List.mem_filter.mp ((faults_met source).subset (List.mem_map_of_mem hf))
  obtain ⟨offset, stands⟩ := exists_standsAt found
  exact ⟨isTagFinding_fault fault, isUnclosed_fault fault, offset, .fault fault closing stands⟩

theorem of_mem_unclosed (h : finding ∈ (balance [] (countedTags true source)).2.reverse.map
    (unclosedFinding true)) :
    isUnclosed finding = true ∧ ∃ offset, PointsAt source offset finding := by
  obtain ⟨tag, ht, rfl⟩ := List.mem_map.mp h
  obtain ⟨found, opening⟩ := List.mem_filter.mp ((unclosed_met source).subset ht)
  obtain ⟨offset, stands⟩ := exists_standsAt found
  exact ⟨isUnclosed_unclosed tag, offset, .unclosed tag (by simpa using opening) stands⟩

theorem of_mem_plainNames (h : finding ∈ plainNamesFrom none .start source) :
    isTagFinding finding = false ∧ isUnclosed finding = false ∧ ∃ offset,
    PointsAt source offset finding := by
  obtain ⟨names, listed, spot, rfl, reads⟩ := readsAt_of_mem_plainNamesFrom h
  obtain ⟨offset, rfl, front⟩ := reads.exists_offset
  exact ⟨isTagFinding_plainName _ _ _, isUnclosed_plainName _ _ _, offset,
    .plainName names listed front⟩

/-- The faults and the plain names, sorted by position, are in a strict order. -/
theorem pairwise_sorted :
    (((balance [] (countedTags true source)).1.map (·.toFinding true) ++
      plainNamesFrom none .start source).mergeSort standsBefore).Pairwise Precedes := by
  apply pairwise_mergeSort_precedes
  refine List.pairwise_append.mpr ⟨?_, ?_, ?_⟩
  · exact (pairwise_map_of_sublist source ((faults_met source).trans List.filter_sublist)
      (isAt_fault true)).imp
      Precedes.distinct
  · exact (pairwise_plainNamesFrom none .start source).imp Precedes.distinct
  · intro a ha b hb
    obtain ⟨tag, -, i, points⟩ := of_mem_faults source ha
    obtain ⟨name, -, j, points'⟩ := of_mem_plainNames source hb
    apply points.distinct points'
    simp [tag, name]

theorem placed_inSourceOrder (checkAttributes : Bool) : ∃ placed,
    checkTags true checkAttributes source =
      placed ++ (balance [] (countedTags true source)).2.reverse.map (unclosedFinding true) ∧
    (∀ finding ∈ placed, isUnclosed finding = false) ∧ InSourceOrder source placed := by
  refine ⟨_, rfl, ?_⟩
  cases checkAttributes with
  | false =>
    refine ⟨fun finding hf => (of_mem_faults source hf).2.1, inSourceOrder_of_precedes ?_ ?_⟩
    · intro finding hf
      exact (of_mem_faults source hf).2.2
    · exact pairwise_map_of_sublist source ((faults_met source).trans List.filter_sublist)
        (isAt_fault true)
  | true =>
    have found (finding : Finding)
        (hf : finding ∈ ((balance [] (countedTags true source)).1.map (·.toFinding true) ++
          plainNamesFrom none .start source).mergeSort standsBefore) :
        isUnclosed finding = false ∧ ∃ offset, PointsAt source offset finding := by
      rcases List.mem_append.mp (List.mem_mergeSort.mp hf) with fault | name
      · exact (of_mem_faults source fault).2
      · exact (of_mem_plainNames source name).2
    refine ⟨fun finding hf => (found finding hf).1, inSourceOrder_of_precedes ?_ ?_⟩
    · intro finding hf
      exact (found finding hf).2
    · exact pairwise_sorted source

/-- The table of lines gives the line and the column of every offset, and keeps the order of
offsets. The findings in code are in the order of the places that they point at, and behind them
those about unclosed tags are in the order in which these tags are opened. -/
theorem findings_in_source_order (checkAttributes : Bool) :
    (∀ offset ≤ source.length, ∃ start, StartsLine source start offset ∧
      locate source offset = ⟨1 + (source.take offset).count '\n', offset - start + 1⟩ ∧
      locate source offset = positionAt source offset) ∧
    (∀ i j, i ≤ source.length → j ≤ source.length →
      ((locate source i).Before (locate source j) ↔ i < j)) ∧
    ∃ placed unclosed, checkTags true checkAttributes source = placed ++ unclosed ∧
      (∀ finding ∈ placed, isUnclosed finding = false) ∧
      (∀ finding ∈ unclosed, isUnclosed finding = true) ∧
      InSourceOrder source placed ∧ InSourceOrder source unclosed := by
  refine ⟨?_, ?_, ?_⟩
  · intro offset inside
    obtain ⟨start, line, found⟩ := exists_locate source offset
    exact ⟨start, line, found, locate_eq_positionAt inside⟩
  · intro i j hi hj
    rw [locate_eq_positionAt hi, locate_eq_positionAt hj]
    exact positionAt_before_iff hi hj
  · obtain ⟨placed, found, others, ordered⟩ := placed_inSourceOrder source checkAttributes
    refine ⟨placed, _, found, others, ?_, ordered, inSourceOrder_of_precedes ?_ ?_⟩
    · intro finding hf
      exact (of_mem_unclosed source hf).1
    · intro finding hf
      exact (of_mem_unclosed source hf).2
    · apply pairwise_map_of_sublist source _ (isAt_unclosed true)
      rw [List.map_id']
      exact (unclosed_met source).trans List.filter_sublist

end Findings

end Handoff.Markup
