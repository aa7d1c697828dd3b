import Handoff.Proofs.Stylesheet.Distance
import Mathlib.Order.Lattice.Nat

/-! # Suggestions

The candidates near a word are ranked by their distances, and by their places among the candidates
where these agree: a sort that keeps the order of what it does not tell apart is a sort by both. The
first three of this ranking are suggested, so nothing that is left out is nearer than what is told,
and nothing near is left out while fewer are told.
-/

namespace Handoff.Stylesheet

section StableSort

variable {α : Type} {key place : α → ℕ} {l : List α}

theorem key_trans (key : α → ℕ) (a b c : α) (h : decide (key a ≤ key b) = true)
    (h' : decide (key b ≤ key c) = true) : decide (key a ≤ key c) = true := by
  simp only [decide_eq_true_eq] at *
  omega

theorem key_total (key : α → ℕ) (a b : α) :
    (decide (key a ≤ key b) || decide (key b ≤ key a)) = true := by
  simp only [Bool.or_eq_true, decide_eq_true_eq]
  omega

theorem filter_mergeSort (key : α → ℕ) (l : List α) (n : ℕ) :
    (l.mergeSort fun a b => key a ≤ key b).filter (key · = n) = l.filter (key · = n) := by
  have level : (l.filter (key · = n)).Pairwise fun a b => decide (key a ≤ key b) = true := by
    apply List.pairwise_of_forall_mem_list
    intro a ha b hb
    have ha := of_decide_eq_true (List.mem_filter.mp ha).2
    have hb := of_decide_eq_true (List.mem_filter.mp hb).2
    apply decide_eq_true
    omega
  have inside : (l.filter (key · = n)).Sublist (l.mergeSort fun a b => key a ≤ key b) :=
    List.sublist_mergeSort (key_trans key) (key_total key) level List.filter_sublist
  have kept := inside.filter fun a => decide (key a = n)
  rw [List.filter_filter] at kept
  simp only [Bool.and_self] at kept
  exact (kept.eq_of_length ((List.mergeSort_perm l _).filter _).length_eq.symm).symm

/-- A list in the order of its places is sorted by the key and, where the keys agree, by the
place. -/
theorem pairwise_mergeSort_places (placed : l.Pairwise fun a b => place a < place b) :
    (l.mergeSort fun a b => key a ≤ key b).Pairwise fun a b =>
      key a < key b ∨ key a = key b ∧ place a < place b := by
  have sorted := List.pairwise_mergeSort (key_trans key) (key_total key) l
  rw [List.pairwise_iff_forall_sublist] at placed sorted ⊢
  intro a b both
  rcases Nat.lt_or_eq_of_le (of_decide_eq_true (sorted both)) with less | tie
  · exact .inl less
  · right
    have level : [a, b].Sublist (l.filter (key · = key b)) := by
      have filtered := both.filter (key · = key b)
      rw [filter_mergeSort] at filtered
      simpa [tie] using filtered
    exact ⟨tie, placed (level.trans List.filter_sublist)⟩

end StableSort

/-! ## The edit distance -/

/-- The length of the shortest sequences of edits from one word to another. -/
noncomputable def editDistance (a b : List Char) : ℕ := sInf {n | Edits n a b}

theorem distance_eq_editDistance (a b : List Char) : distance a b = editDistance a b := by
  have first : IsRow [] [] b (firstDistanceRow b) := by
    simpa [firstDistanceRow, List.range_eq_range'] using isRow_first [] b
  have least : IsDistance (distance a b) a b := (first.foldl a).getLastD
  exact least.csInf_eq.symm

/-! ## The ranking -/

/-- The candidates within two edits of a word, each with its place, by their distances and then by
their places. -/
structure IsRanking (word : List Char) (candidates : List String) (ranked : List (String × ℕ)) :
    Prop where
  near : ranked.Perm (candidates.zipIdx.filter fun entry => editDistance word entry.1.toList ≤ 2)
  ordered : ranked.Pairwise fun a b =>
    editDistance word a.1.toList < editDistance word b.1.toList ∨
      editDistance word a.1.toList = editDistance word b.1.toList ∧ a.2 < b.2

def ranking (word : List Char) (candidates : List String) : List (String × ℕ) :=
  (candidates.zipIdx.filter fun entry => distance word entry.1.toList ≤ 2).mergeSort fun a b =>
    distance word a.1.toList ≤ distance word b.1.toList

variable {word : List Char} {candidates : List String} {ranked : List (String × ℕ)}

theorem isRanking_ranking (word : List Char) (candidates : List String) :
    IsRanking word candidates (ranking word candidates) where
  near := by
    simp only [← distance_eq_editDistance]
    exact List.mergeSort_perm _ _
  ordered := by
    simp only [← distance_eq_editDistance]
    apply pairwise_mergeSort_places
    apply List.Pairwise.filter
    apply List.pairwise_map.mp
    rw [List.zipIdx_map_snd]
    exact List.pairwise_lt_range' 1

theorem nearest_eq (word : List Char) (candidates : List String) : nearest word candidates =
    (ranking word candidates).map fun entry => (distance word entry.1.toList, entry.1) := by
  have near : (candidates.map fun candidate => (distance word candidate.toList, candidate)).filter
      (fun scored => scored.1 ≤ suggestionRadius) =
        (candidates.zipIdx.filter fun entry => distance word entry.1.toList ≤ 2).map
          fun entry => (distance word entry.1.toList, entry.1) := by
    conv_lhs => rw [← List.zipIdx_map_fst 0 candidates]
    rw [List.map_map, List.filter_map]
    rfl
  rw [nearest, near, ranking]
  symm
  apply List.map_mergeSort
  intro a _ b _
  rfl

theorem IsRanking.mem_iff (h : IsRanking word candidates ranked) {entry : String × ℕ} :
    entry ∈ ranked ↔ entry ∈ candidates.zipIdx ∧ editDistance word entry.1.toList ≤ 2 := by
  rw [h.near.mem_iff, List.mem_filter, decide_eq_true_eq]

theorem IsRanking.le_of_omitted (h : IsRanking word candidates ranked) (limit : ℕ)
    {returned omitted : String × ℕ} (told : returned ∈ ranked.take limit)
      (candidate : omitted ∈ candidates.zipIdx)
    (left : omitted ∉ ranked.take limit) :
    editDistance word returned.1.toList ≤ editDistance word omitted.1.toList := by
  have near : editDistance word returned.1.toList ≤ 2 :=
    (h.mem_iff.mp (List.mem_of_mem_take told)).2
  by_cases far : editDistance word omitted.1.toList ≤ 2
  · have behind : omitted ∈ ranked.drop limit := by
      have mem := h.mem_iff.mpr ⟨candidate, far⟩
      rw [← List.take_append_drop limit ranked, List.mem_append] at mem
      exact mem.resolve_left left
    have ordered := h.ordered
    rw [← List.take_append_drop limit ranked, List.pairwise_append] at ordered
    rcases ordered.2.2 returned told omitted behind with less | ⟨tie, -⟩
    · exact less.le
    · exact tie.le
  · omega

/-- The suggestions are the first three candidates of the ranking, or all of them if there are
fewer. No candidate that is left out is nearer than one that is told, and while fewer than three are
told, every candidate within two edits is. -/
theorem similar_ranked (word : List Char) (candidates : List String) :
    ∃ ranked, IsRanking word candidates ranked ∧
      similar word candidates = (ranked.take 3).map Prod.fst ∧
      (∀ returned ∈ ranked.take 3, ∀ omitted ∈ candidates.zipIdx, omitted ∉ ranked.take 3 →
        editDistance word returned.1.toList ≤ editDistance word omitted.1.toList) ∧
      ((similar word candidates).length < 3 →
        ∀ entry ∈ candidates.zipIdx, editDistance word entry.1.toList ≤ 2 →
        entry ∈ ranked.take 3) := by
  have ranks := isRanking_ranking word candidates
  have told : similar word candidates = ((ranking word candidates).take 3).map Prod.fst := by
    rw [similar, nearest_eq, ← List.map_take, List.map_map]
    rfl
  refine ⟨_, ranks, told, ?_, ?_⟩
  · intro returned hr omitted ho left
    exact ranks.le_of_omitted 3 hr ho left
  · intro few entry candidate near
    have short : (ranking word candidates).length ≤ 3 := by
      rw [told, List.length_map, List.length_take] at few
      omega
    rw [List.take_of_length_le short]
    exact ranks.mem_iff.mpr ⟨candidate, near⟩

example : similar "ab".toList ["abcd", "b", "abc", "xb", "ab"] = ["ab", "b", "abc"] := by cbv

end Handoff.Stylesheet
