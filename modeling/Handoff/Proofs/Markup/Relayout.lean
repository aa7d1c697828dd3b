import Handoff.Proofs.Markup.Siblings

/-! # Laying out what is laid out

Spaces around tokens are trimmed off, and between two texts there is always a tag, as long as no
bracket is left out. So the lines of some markup are cut into the tokens of the markup again,
whatever their indentation and however tags are nested, and these have the same lines.
-/

namespace Handoff.Markup

open Text

variable {text rest front gap body : List Char} {row : List (List Char)}

/-! ## Markup without stray brackets -/

/-- Tags and texts take all of some markup; no character is left out. -/
def IsCovered (text : List Char) : Prop := (occurrences tagOrText text).flatten = text

/-- Behind every opening bracket outside of the tags there is at least one character other than a
closing bracket, and then such a bracket. -/
inductive IsTagged : List Char → Prop
  | nil : IsTagged []
  | plain {c : Char} {rest : List Char} : c ≠ '<' → IsTagged rest → IsTagged (c :: rest)
  | tag {body rest : List Char} : body ≠ [] → '>' ∉ body → IsTagged rest →
    IsTagged ('<' :: body ++ '>' :: rest)

theorem isTagged_append_iff (free : '<' ∉ front) : IsTagged (front ++ rest) ↔ IsTagged rest := by
  induction front with
  | nil => rfl
  | cons c front ih =>
    obtain ⟨hc, hf⟩ := List.ne_and_not_mem_of_not_mem_cons free
    rw [← ih hf]
    constructor
    · generalize he : c :: front ++ rest = text
      rintro (_ | ⟨_, h⟩ | _)
      · cases he
      · cases he
        exact h
      · exact absurd (List.cons.inj he).1.symm hc
    · exact .plain hc.symm

theorem isTagged_tag_iff (ne : body ≠ []) (hb : '>' ∉ body) :
    IsTagged ('<' :: body ++ '>' :: rest) ↔ IsTagged rest := by
  constructor
  · generalize he : '<' :: body ++ '>' :: rest = text
    rintro (_ | ⟨hc, _⟩ | @⟨body', rest', _, hb', h⟩)
    · cases he
    · cases he
      exact absurd rfl hc
    · have same : body ++ '>' :: rest = body' ++ '>' :: rest' := (List.cons.inj he).2
      have behind := dropWhile_ne_append hb rest
      rw [same, dropWhile_ne_append hb'] at behind
      cases behind
      exact h
  · exact .tag ne hb

theorem not_isTagged_stray (h : rest.head? = some '>' ∨ '>' ∉ rest) : ¬ IsTagged ('<' :: rest) := by
  generalize he : '<' :: rest = text
  rintro (_ | ⟨hc, _⟩ | @⟨body, behind, ne, hb, _⟩)
  · cases he
  · cases he
    exact hc rfl
  · obtain ⟨-, rfl⟩ := List.cons.inj he
    rcases h with first | none
    · obtain ⟨c, tail, rfl⟩ := List.exists_cons_of_ne_nil ne
      obtain rfl : c = '>' := by simpa using first
      exact hb List.mem_cons_self
    · exact none (List.mem_append_right body List.mem_cons_self)

theorem occurrences_tag (ne : body ≠ []) (hb : '>' ∉ body) (rest : List Char) :
    occurrences tagOrText ('<' :: body ++ '>' :: rest) =
      ('<' :: body ++ ['>']) :: occurrences tagOrText rest := by
  have taken : tagOrText ('<' :: body ++ ['>'] ++ rest) = some rest := by
    simpa using tagOrText_tag ne hb rest
  rw [List.append_cons]
  exact occurrences_append (by simp) taken

theorem length_flatten_occurrences_le (text : List Char) :
    (occurrences tagOrText text).flatten.length ≤ text.length := by
  induction text using token_induction with
  | nil => exact Nat.le_refl 0
  | lead front rest ne hf hr ih =>
    rw [occurrences_append ne (tagOrText_text ne hf hr), List.flatten_cons, List.length_append,
      List.length_append]
    exact Nat.add_le_add_left ih _
  | tag body rest ne hb ih =>
    rw [occurrences_tag ne hb]
    simp only [List.flatten_cons, List.length_append, List.length_cons, List.length_nil]
    omega
  | stray rest h ih =>
    rw [occurrences_cons (tagOrText_stray h)]
    exact Nat.le_succ_of_le ih

/-- Markup is covered by tags and texts if and only if every bracket outside of the tags opens
one. -/
theorem isCovered_iff (text : List Char) : IsCovered text ↔ IsTagged text := by
  unfold IsCovered
  induction text using token_induction with
  | nil => exact iff_of_true rfl .nil
  | lead front rest ne hf hr ih =>
    rw [occurrences_append ne (tagOrText_text ne hf hr), List.flatten_cons,
      List.append_right_inj, ih, isTagged_append_iff hf]
  | tag body rest ne hb ih =>
    rw [isTagged_tag_iff ne hb, ← ih, occurrences_tag ne hb, List.flatten_cons]
    simp
  | stray rest h ih =>
    apply iff_of_false _ (not_isTagged_stray h)
    rw [occurrences_cons (tagOrText_stray h)]
    intro same
    have fewer := length_flatten_occurrences_le rest
    rw [same, List.length_cons] at fewer
    omega

/-! ## Tokens in a row -/

inductive Apart : List (List Char) → Prop
  | nil : Apart []
  | tag {row : List (List Char)} (tag : Bracketed) : Apart row → Apart (tag.text :: row)
  | text {content : List Char} {row : List (List Char)} : content ≠ [] → '<' ∉ content →
    trim content = content → (∀ next ∈ row.head?, isTag next = true) → Apart row →
    Apart (content :: row)

theorem IsTagged.apart (h : IsTagged text) : Apart (tokens text) ∧
    ((∀ c ∈ text.head?, c = '<') → ∀ next ∈ (tokens text).head?, isTag next = true) := by
  induction text using token_induction with
  | nil => exact ⟨.nil, by rintro - _ ⟨⟩⟩
  | lead front rest ne hf hr ih =>
    obtain ⟨apart, led⟩ := ih ((isTagged_append_iff hf).mp h)
    rw [tokens_lead ne hf hr]
    constructor
    · split
      · exact apart
      · rename_i some
        apply Apart.text _ (not_mem_trim hf) (trimBoth_trimBoth isSpace front) (led hr) apart
        simpa using some
    · intro first
      obtain ⟨c, front, rfl⟩ := List.exists_cons_of_ne_nil ne
      exact absurd (first c rfl ▸ List.mem_cons_self) hf
  | tag body rest ne hb ih =>
    obtain ⟨apart, -⟩ := ih ((isTagged_tag_iff ne hb).mp h)
    rw [tokens_tag ne hb]
    constructor
    · exact .tag ⟨body, ne, hb⟩ apart
    · rintro - _ ⟨⟩
      rfl
  | stray rest hr _ => exact absurd h (not_isTagged_stray hr)

inductive Spaced : List (List Char) → List Char → Prop
  | nil {gap : List Char} : (∀ c ∈ gap, isSpace c = true) → Spaced [] gap
  | cons {gap token rest : List Char} {row : List (List Char)} : (∀ c ∈ gap, isSpace c = true) →
    Spaced row rest → Spaced (token :: row) (gap ++ token ++ rest)

theorem Spaced.lead (h : Spaced row text) (spaces : ∀ c ∈ gap, isSpace c = true) :
    Spaced row (gap ++ text) := by
  cases h with
  | nil more => exact .nil (List.forall_mem_append.mpr ⟨spaces, more⟩)
  | cons more rest =>
    rw [← List.append_assoc, ← List.append_assoc]
    exact .cons (List.forall_mem_append.mpr ⟨spaces, more⟩) rest

theorem Spaced.split (h : Spaced row text) (led : ∀ next ∈ row.head?, isTag next = true) :
    ∃ gap rest, text = gap ++ rest ∧ (∀ c ∈ gap, isSpace c = true) ∧ ∀ c ∈ rest.head?, c = '<' := by
  cases h with
  | nil spaces => exact ⟨text, [], (List.append_nil text).symm, spaces, by simp⟩
  | @cons gap token rest row spaces _ =>
    refine ⟨gap, token ++ rest, List.append_assoc .., spaces, ?_⟩
    obtain ⟨tail, rfl⟩ : ∃ tail, token = '<' :: tail := by
      have first := led token rfl
      rw [isTag, beq_iff_eq] at first
      exact List.head?_eq_some_iff.mp first
    rintro _ ⟨⟩
    rfl

/-- Tokens are found again with spaces around them, if no texts are next to each other. -/
theorem Apart.tokens_of_spaced (apart : Apart row) (spaced : Spaced row text) :
    tokens text = row := by
  induction apart generalizing text with
  | nil =>
    cases spaced with
    | nil spaces =>
      have blank : tokens (text ++ []) = tokens [] := tokens_gap spaces (by simp)
      rwa [List.append_nil] at blank
  | tag tag _ ih =>
    cases spaced with
    | cons spaces behind =>
      rw [List.append_assoc, tokens_gap spaces (tag.head?_text _), tag.tokens_text, ih behind]
  | @text content row ne free trimmed led _ ih =>
    cases spaced with
    | @cons gap _ rest _ spaces behind =>
      obtain ⟨more, rest, rfl, after, hr⟩ := behind.split led
      have whole : '<' ∉ gap ++ content ++ more := by
        have solid : isSpace '<' = false := by decide
        simp [not_mem_spaces spaces solid, not_mem_spaces after solid, free]
      have cut : trim (gap ++ content ++ more) = content := by
        rw [trim, trimBoth_append_right after, trimBoth_append_left spaces]
        exact trimmed
      calc tokens (gap ++ content ++ (more ++ rest))
          = tokens (gap ++ content ++ more ++ rest) := by rw [List.append_assoc (gap ++ content)]
        _ = content :: tokens rest := by
          rw [tokens_content whole hr, cut, if_neg (by simpa using ne), List.singleton_append]
        _ = content :: row := by rw [← tokens_gap after hr, ih behind]

/-! ## Lines -/

theorem Spaced.joined {lines : List (List Char)} (h : Spaced row (joinWith ['\n'] lines))
    (line : List Char) :
    ∃ rest, joinWith ['\n'] (line :: lines) = line ++ rest ∧ Spaced row rest := by
  cases lines with
  | nil => exact ⟨[], by simp [joinWith], h⟩
  | cons next lines =>
    refine ⟨'\n' :: joinWith ['\n'] (next :: lines), ?_, ?_⟩
    · rw [joinWith, List.intercalate_cons_cons]
      simp [joinWith]
    · have spaces : ∀ c ∈ ['\n'], isSpace c = true := by decide
      exact h.lead spaces

theorem spaced_linesFrom (indent step : Int) (depth : Nat) (row : List (List Char)) :
    Spaced row (joinWith ['\n'] ((linesFrom indent step depth row).map Line.render)) := by
  have indented (width : Nat) : ∀ c ∈ List.replicate width ' ', isSpace c = true := fun c hc =>
    List.eq_of_mem_replicate hc ▸ by decide
  have single {row : List (List Char)} {lines : List Line} (width : Nat) (token : List Char)
      (h : Spaced row (joinWith ['\n'] (lines.map Line.render))) :
      Spaced (token :: row) (joinWith ['\n'] ((⟨width, token⟩ :: lines).map Line.render)) := by
    obtain ⟨rest, he, behind⟩ := h.joined (Line.render ⟨width, token⟩)
    rw [List.map_cons, he]
    exact .cons (indented width) behind
  fun_induction linesFrom indent step depth row with
  | case1 => exact .nil (by simp [joinWith])
  | case2 depth token rest closes ih => exact single _ token ih
  | case3 depth token closes opens content closing more alone ih =>
    obtain ⟨rest, he, behind⟩ :=
      ih.joined (Line.render ⟨indentAt indent step depth, token ++ content ++ closing⟩)
    have three : Spaced (token :: content :: closing :: more)
        (List.replicate (indentAt indent step depth) ' ' ++ token ++
          ([] ++ content ++ ([] ++ closing ++ rest))) :=
      .cons (indented _) (.cons (by simp) (.cons (by simp) behind))
    rw [List.map_cons, he]
    simpa [Line.render] using three
  | case4 depth token closes opens content closing more apart ih => exact single _ token ih
  | case5 depth token closes opens rest short ih => exact single _ token ih
  | case6 depth token rest closes opens ih => exact single _ token ih

/-- The lines of covered markup are cut into the tokens of the markup. -/
theorem tokens_layout (covered : IsCovered text) (indent step : Int) :
    tokens (joinWith ['\n'] (layout indent step text)) = tokens text := by
  obtain ⟨apart, -⟩ := ((isCovered_iff text).mp covered).apart
  exact apart.tokens_of_spaced (spaced_linesFrom indent step 0 (tokens text))

/-- Markup that is laid out is cut into the same tokens and keeps its lines when these are laid out
again in the same way, as long as no bracket of the markup is left out. The tags need not be
balanced, and an indentation below zero is none. -/
theorem layout_layout (covered : IsCovered text) (indent step : Int) :
    tokens (joinWith ['\n'] (layout indent step text)) = tokens text ∧
      layout indent step (joinWith ['\n'] (layout indent step text)) = layout indent step text := by
  have again := tokens_layout covered indent step
  constructor
  · exact again
  · unfold layout at again ⊢
    rw [again]

/-- Closing tags without an opening one, texts over several lines, and an element with only a
text. -/
def tagSoup : List Char := "</g> a >\n b <text\n x=\"1\"> x </text><g><path/>\t</p></b></g>c".toList

theorem layout_layout_tagSoup : IsCovered tagSoup ∧
    layout 2 3 tagSoup = ["  </g>", "  a >\n b", "  <text\n x=\"1\">x</text>", "  <g>",
      "     <path/>", "  </p>", "  </b>", "  </g>", "  c"].map String.toList ∧
    tokens (joinWith ['\n'] (layout 2 3 tagSoup)) = tokens tagSoup ∧
    layout 2 3 (joinWith ['\n'] (layout 2 3 tagSoup)) = layout 2 3 tagSoup := by
  have covered : IsCovered tagSoup := by
    unfold IsCovered
    decide +kernel
  exact ⟨covered, by decide +kernel, layout_layout covered 2 3⟩

-- a bracket that starts no tag parts two texts, which are one text in the lines
example : layout 0 2 "a<b".toList = ["a", "b"].map String.toList ∧
    layout 0 2 (joinWith ['\n'] (layout 0 2 "a<b".toList)) = ["a\nb".toList] := by
  decide +kernel

end Handoff.Markup
