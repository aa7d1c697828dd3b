import Handoff.Markup.Layout
import Handoff.Proofs.Markup.Clean
import Handoff.Proofs.Markup.Woven

/-! # The lines of woven markup

A woven text is cut into its tags and the texts between them. Each line of the layout holds one of
these tokens, or the three of an element with nothing but text, and the lines hold all tokens in
their order. So the lines spell what the text spells, and they are as clean as the text.
-/

namespace Handoff.Markup

open Text

variable {jsx : Bool} {token text rest front : List Char} {m n : List Mark}

/-! ## Tokens -/

inductive IsToken (jsx : Bool) : List Char → List Mark → Prop
  | text {token : List Char} : '<' ∉ token → IsToken jsx token []
  | tag {token : List Char} {m : List Mark} : IsTag jsx token m → IsToken jsx token m

/-- Tokens in a row, with the marks that they spell. -/
inductive Tokens (jsx : Bool) : List (List Char) → List Mark → Prop
  | nil : Tokens jsx [] []
  | cons {token : List Char} {tokens : List (List Char)} {m n : List Mark} :
    IsToken jsx token m → Tokens jsx tokens n → Tokens jsx (token :: tokens) (m ++ n)

theorem tagOrText_text (ne : front ≠ []) (hf : '<' ∉ front) (hr : ∀ c ∈ rest.head?, c = '<') :
    tagOrText (front ++ rest) = some rest := by
  obtain ⟨c, front, rfl⟩ := List.exists_cons_of_ne_nil ne
  obtain ⟨hc, hf⟩ := not_or.mp (List.mem_cons.not.mp hf)
  have noTag : tag (c :: (front ++ rest)) = none := by
    unfold tag
    split
    · rename_i he
      exact absurd (List.cons.inj he).1.symm hc
    · rfl
  have behind : (front ++ rest).dropWhile (· != '<') = rest := by
    rw [List.dropWhile_append_of_pos fun d hd => by simpa using ne_of_mem_of_not_mem hd hf]
    cases rest with
    | nil => rfl
    | cons d rest => simp [hr d rfl]
  have first : (c != '<') = true := by simpa using Ne.symm hc
  simp [tagOrText, Recogniser.orElse, noTag, Recogniser.oneOrMore, first, behind]

theorem IsTag.ne_nil (h : IsTag jsx token m) : token ≠ [] := by
  obtain ⟨c, body, rfl, -, -⟩ := h.shape
  exact List.cons_ne_nil _ _

theorem tagOrText_tag {body : List Char} (ne : body ≠ []) (hb : '>' ∉ body) (rest : List Char) :
    tagOrText ('<' :: body ++ '>' :: rest) = some rest := by
  obtain ⟨c, body, rfl⟩ := List.exists_cons_of_ne_nil ne
  obtain ⟨hc, hb⟩ := List.ne_and_not_mem_of_not_mem_cons hb
  have behind : (body ++ '>' :: rest).dropWhile (· != '>') = '>' :: rest :=
    dropWhile_ne_append hb rest
  simp [Markup.tagOrText, Recogniser.orElse, tag, hc.symm, behind]

theorem trim_tag (body : List Char) : Text.trim ('<' :: body ++ ['>']) = '<' :: body ++ ['>'] :=
  trimBoth_eq_self (fun d hd => by cases hd; decide) fun d hd => by
    rw [List.getLast?_append] at hd
    cases hd
    decide

theorem IsTag.tagOrText (h : IsTag jsx token m) (rest : List Char) :
    tagOrText (token ++ rest) = some rest := by
  obtain ⟨c, body, rfl, -, free⟩ := h.shape
  rw [List.append_assoc]
  exact tagOrText_tag (List.cons_ne_nil c body) (fun hm => (free _ hm).2 rfl) rest

theorem IsTag.trim (h : IsTag jsx token m) : trim token = token := by
  obtain ⟨c, body, rfl, -, -⟩ := h.shape
  exact trim_tag (c :: body)

theorem tokens_append {taken : List Char} (ne : taken ≠ [])
    (h : tagOrText (taken ++ rest) = some rest) :
    tokens (taken ++ rest) =
      (if (Text.trim taken).isEmpty then [] else [Text.trim taken]) ++ tokens rest := by
  rw [tokens, occurrences_append ne h, List.map_cons, List.filter_cons]
  cases (Text.trim taken).isEmpty <;> rfl

theorem not_mem_trim {c : Char} (h : c ∉ text) : c ∉ Text.trim text := by
  obtain ⟨before, after, he⟩ := trimBoth_infix isSpace text
  intro hm
  rw [he] at h
  exact h (List.mem_append_left _ (List.mem_append_right _ hm))

theorem Tokens.lead (h : Tokens jsx (tokens rest) n) (hf : '<' ∉ front)
    (hr : ∀ c ∈ rest.head?, c = '<') : Tokens jsx (tokens (front ++ rest)) n := by
  rcases eq_or_ne front [] with rfl | ne
  · exact h
  · rw [tokens_append ne (tagOrText_text ne hf hr)]
    split
    · exact h
    · exact .cons (.text (not_mem_trim hf)) h

theorem Woven.tokens (h : Woven jsx text m) : Tokens jsx (tokens text) m := by
  induction h with
  | @text lead hl =>
    have none : Tokens jsx (Markup.tokens []) [] := Tokens.nil
    simpa using none.lead hl (by simp)
  | @tag lead token rest m n hl ht _ ih =>
    obtain ⟨c, body, rfl, -, -⟩ := id ht.shape
    rw [List.append_assoc]
    refine Tokens.lead ?_ hl (by simp)
    rw [tokens_append (by simp) (ht.tagOrText rest), ht.trim]
    exact .cons (.tag ht) ih

/-! ## Lines -/

theorem isTag_of_not_mem (free : '<' ∉ token) : isTag token = false :=
  beq_false_of_ne fun first => free (List.mem_of_head? first)

theorem isClosing_cons {c : Char} (h : c ≠ '/') (rest : List Char) :
    isClosing ('<' :: c :: rest) = false := by
  simp [isClosing, List.isPrefixOf, h.symm]

theorem isSuffixOf_slash (body : List Char) :
    "/>".toList.isSuffixOf (body ++ ['>']) = (body.getLast? == some '/') := by
  rw [Bool.eq_iff_iff, List.isSuffixOf_iff_suffix, beq_iff_eq, List.getLast?_eq_some_iff]
  constructor
  · rintro ⟨front, he⟩
    exact ⟨front, ((List.append_left_inj ['>']).mp (by simpa using he)).symm⟩
  · rintro ⟨front, rfl⟩
    exact ⟨front, by simp⟩

section Lines

variable {indent step : Int} {depth : Nat} {tokens : List (List Char)}

theorem linesFrom_closing (h : isClosing token = true) :
    linesFrom indent step depth (token :: tokens) =
      ⟨indentAt indent step (depth - 1), token⟩ :: linesFrom indent step (depth - 1) tokens := by
  rw [linesFrom.eq_def]
  simp [h]

theorem linesFrom_element {content closing : List Char} (hc : ¬ isClosing token = true)
    (ho : isOpening token = true) (alone : (!isTag content && isClosing closing) = true) :
    linesFrom indent step depth (token :: content :: closing :: tokens) =
      ⟨indentAt indent step depth, token ++ content ++ closing⟩ ::
        linesFrom indent step depth tokens := by
  rw [linesFrom.eq_def]
  simp only [if_neg hc, if_pos ho, if_pos alone]

theorem linesFrom_opening (hc : ¬ isClosing token = true) (ho : isOpening token = true)
    (apart : ∀ content closing more, tokens = content :: closing :: more →
      ¬ (!isTag content && isClosing closing) = true) :
    linesFrom indent step depth (token :: tokens) =
      ⟨indentAt indent step depth, token⟩ :: linesFrom indent step (depth + 1) tokens := by
  rw [linesFrom.eq_def]
  simp only [if_neg hc, if_pos ho]
  rcases tokens with _ | ⟨content, _ | ⟨closing, more⟩⟩
  · rfl
  · rfl
  · exact if_neg (apart content closing more rfl)

theorem linesFrom_single (hc : ¬ isClosing token = true) (ho : ¬ isOpening token = true) :
    linesFrom indent step depth (token :: tokens) =
      ⟨indentAt indent step depth, token⟩ :: linesFrom indent step depth tokens := by
  rw [linesFrom.eq_def]
  simp only [if_neg hc, if_neg ho]

/-- A map of tokens under which a tag stays one of its kind, and a text stays a text. -/
structure KeepsKinds (g : List Char → List Char) : Prop where
  tag : ∀ token, isTag (g token) = isTag token
  closing : ∀ token, isClosing (g token) = isClosing token
  opening : ∀ token, isOpening (g token) = isOpening token

def Line.map (shift : Nat → Nat) (g : List Char → List Char) (line : Line) : Line :=
  ⟨shift line.indent, g line.text⟩

variable {g : List Char → List Char} {shift : Nat → Nat} {indent' : Int}

theorem linesFrom_map (kinds : KeepsKinds g)
    (shifts : ∀ depth, shift (indentAt indent step depth) = indentAt indent' step depth)
    (element : ∀ opened ∈ tokens, isTag opened = true → ∀ content closing,
      isClosing closing = true → g (opened ++ content ++ closing) = g opened ++
        g content ++ g closing)
    (depth : Nat) :
    linesFrom indent' step depth (tokens.map g) =
      (linesFrom indent step depth tokens).map (Line.map shift g) := by
  have line (depth : Nat) (token : List Char) :
      Line.map shift g ⟨indentAt indent step depth, token⟩ =
        ⟨indentAt indent' step depth, g token⟩ := by
    rw [Line.map, shifts]
  have closes {token : List Char} (h : ¬ isClosing token = true) : ¬ isClosing (g token) = true :=
    (kinds.closing token).symm ▸ h
  fun_induction linesFrom indent step depth tokens with
  | case1 => rfl
  | case2 depth token rest closing ih =>
    rw [List.map_cons, linesFrom_closing ((kinds.closing token).trans closing),
      ih (List.forall_mem_cons.mp element).2, List.map_cons, line]
  | case3 depth token closing opens content closed more alone ih =>
    obtain ⟨isText, isClosed⟩ := Bool.and_eq_true_iff.mp alone
    obtain ⟨first, others⟩ := List.forall_mem_cons.mp element
    have joined :=
      first (Bool.and_eq_true_iff.mp (Bool.and_eq_true_iff.mp opens).1).1 content closed
      isClosed
    rw [List.map_cons, List.map_cons, List.map_cons,
      linesFrom_element (closes closing) ((kinds.opening token).trans opens)
        (by rw [kinds.tag, kinds.closing, alone]),
      ih fun token hm => others token (by simp [hm]), List.map_cons, line, joined]
  | case4 depth token closing opens content closed more apart ih =>
    rw [List.map_cons, linesFrom_opening (closes closing) ((kinds.opening token).trans opens),
      ih (List.forall_mem_cons.mp element).2, List.map_cons, line]
    rintro _ _ _ ⟨⟩
    rwa [kinds.tag, kinds.closing]
  | case5 depth token closing opens rest short ih =>
    rw [List.map_cons, linesFrom_opening (closes closing) ((kinds.opening token).trans opens),
      ih (List.forall_mem_cons.mp element).2, List.map_cons, line]
    intro content closed more he
    obtain ⟨_, _, rfl, -, he⟩ := List.map_eq_cons_iff.mp he
    obtain ⟨_, _, rfl, -, -⟩ := List.map_eq_cons_iff.mp he
    exact absurd rfl (short _ _ _)
  | case6 depth token rest closing opens ih =>
    rw [List.map_cons, linesFrom_single (closes closing) ((kinds.opening token).symm ▸ opens),
      ih (List.forall_mem_cons.mp element).2, List.map_cons, line]

end Lines

/-- Markup that is laid out further to the right has the same lines, with more spaces before
each. -/
theorem layout_indent {step : Int} (hs : 0 ≤ step) (indent : Nat) (text : List Char) :
    layout indent step text = (layout 0 step text).map (List.replicate indent ' ' ++ ·) := by
  have shifts (depth : Nat) : indent + indentAt 0 step depth = indentAt indent step depth := by
    have deeper : 0 ≤ depth * step := Int.mul_nonneg (Int.natCast_nonneg depth) hs
    simp only [indentAt]
    omega
  have lines : linesFrom indent step 0 ((tokens text).map id) = _ :=
    linesFrom_map ⟨fun _ => rfl, fun _ => rfl, fun _ => rfl⟩ shifts (fun _ _ _ _ _ _ => rfl) 0
  rw [List.map_id] at lines
  rw [layout, layout, lines, List.map_map, List.map_map]
  refine List.map_congr_left fun line _ => ?_
  rw [Function.comp_apply, Function.comp_apply, Line.map, Line.render,
    ← List.replicate_append_replicate, List.append_assoc]
  rfl

/-- Lines that hold tokens in their order: one token each, or the three of an element with text. -/
inductive Laid (jsx : Bool) : List Line → List (List Char) → List Mark → Prop
  | nil : Laid jsx [] [] []
  | token {token : List Char} {lines : List Line} {tokens : List (List Char)} {m n : List Mark}
    (indent : Nat) : IsToken jsx token m → Laid jsx lines tokens n →
    Laid jsx (⟨indent, token⟩ :: lines) (token :: tokens) (m ++ n)
  | element {opened content name : List Char} {lines : List Line} {tokens : List (List Char)}
    {m n : List Mark} (indent : Nat) : IsTag jsx opened m → '<' ∉ content → IsTagName name →
    Laid jsx lines tokens n →
    Laid jsx (⟨indent, opened ++ content ++ ("</".toList ++ name ++ ['>'])⟩ :: lines)
      (opened :: content :: ("</".toList ++ name ++ ['>']) :: tokens) (m ++ ⟨true, name⟩ :: n)

theorem IsToken.of_isTag (h : IsToken jsx token m) (ht : isTag token = true) :
    IsTag jsx token m := by
  cases h with
  | text free => exact absurd (List.mem_of_head? (by simpa [isTag] using ht)) free
  | tag h => exact h

theorem IsToken.not_mem (h : IsToken jsx token m) (ht : isTag token = false) :
    '<' ∉ token ∧ m = [] := by
  cases h with
  | text free => exact ⟨free, rfl⟩
  | tag h =>
    obtain ⟨c, body, rfl, -, -⟩ := h.shape
    cases ht

theorem IsTag.closing_of_isClosing (h : IsTag jsx token m) (hc : isClosing token = true) :
    ∃ name, IsTagName name ∧ token = "</".toList ++ name ++ ['>'] ∧ m = [⟨true, name⟩] := by
  cases h with
  | @opening name tail hn ht =>
    obtain ⟨c, name, rfl⟩ := List.exists_cons_of_ne_nil hn.ne_nil
    obtain rfl : '/' = c := by simpa [isClosing] using hc
    exact absurd (hn.first _ rfl) (by decide)
  | closing hn => exact ⟨_, hn, rfl, rfl⟩

theorem isTag_of_isClosing (h : isClosing token = true) : isTag token = true := by
  obtain ⟨rest, rfl⟩ := List.isPrefixOf_iff_prefix.mp h
  rfl

theorem Tokens.laid {tokens : List (List Char)} (h : Tokens jsx tokens m) (indent step : Int)
    (depth : Nat) :
    Laid jsx (linesFrom indent step depth tokens) tokens m := by
  fun_induction linesFrom indent step depth tokens generalizing m with
  | case1 => cases h; exact .nil
  | case2 depth token rest closing ih => cases h with | cons ht hr => exact .token _ ht (ih hr)
  | case3 depth token closing opens content closed more alone ih =>
    obtain ⟨isText, isClosed⟩ := Bool.and_eq_true_iff.mp alone
    cases h with
    | cons ho h =>
    cases h with
    | cons hc h =>
    cases h with
    | cons hd h =>
    have opened := ho.of_isTag (Bool.and_eq_true_iff.mp (Bool.and_eq_true_iff.mp opens).1).1
    obtain ⟨free, rfl⟩ := hc.not_mem (by simpa using isText)
    obtain ⟨name, hn, rfl, rfl⟩ :=
      (hd.of_isTag (isTag_of_isClosing isClosed)).closing_of_isClosing isClosed
    exact .element _ opened free hn (ih h)
  | case4 depth token closing opens content closed more alone ih =>
    cases h with | cons ht hr => exact .token _ ht (ih hr)
  | case5 depth token rest closing opens short ih =>
    cases h with | cons ht hr => exact .token _ ht (ih hr)
  | case6 depth token rest closing opens ih =>
    cases h with | cons ht hr => exact .token _ ht (ih hr)

theorem not_mem_indent (indent : Nat) {c : Char} (hc : c ≠ ' ') : c ∉ List.replicate indent ' ' :=
  fun hm => hc (List.eq_of_mem_replicate hm)

theorem spells_indented (h : Spells jsx text m) (indent : Nat) :
    Spells jsx (List.replicate indent ' ' ++ text) m := by
  rcases eq_or_ne indent 0 with rfl | ne
  · exact h
  · have blank : Spells jsx (List.replicate indent ' ') [] :=
      (spellsAnywhere_of_not_mem (not_mem_indent indent (by decide))).spells
    refine blank.append h (by simpa using ne) fun c hc => ?_
    obtain rfl := List.eq_of_mem_replicate (List.mem_of_getLast? hc)
    decide

theorem IsToken.spells (h : IsToken jsx token m) : Spells jsx token m := by
  cases h with
  | text free => exact (spellsAnywhere_of_not_mem free).spells
  | tag h => exact h.spells

theorem Laid.spells {lines : List Line} {tokens : List (List Char)} (h : Laid jsx lines tokens m) :
    SpellsLines jsx (lines.map fun line => String.ofList line.render) m := by
  induction h with
  | nil => exact .nil
  | token indent ht _ ih =>
    refine .cons ?_ ih
    rw [String.toList_ofList]
    exact spells_indented ht.spells indent
  | @element _ _ name _ _ m n indent ho hc hn _ ih =>
    have inner := (ho.spells.append_anywhere (spellsAnywhere_of_not_mem hc)).append_anywhere
      (spellsAnywhere_closing hn)
    rw [List.append_nil] at inner
    rw [show m ++ ⟨true, name⟩ :: n = m ++ [⟨true, name⟩] ++ n by simp]
    refine .cons ?_ ih
    rw [String.toList_ofList]
    exact spells_indented inner indent

theorem Woven.spells_layout (h : Woven jsx text m) (indent step : Int) :
    SpellsLines jsx ((layout indent step text).map String.ofList) m := by
  simpa [layout, Function.comp_def] using (h.tokens.laid indent step 0).spells

/-! ## Clean lines -/

theorem isSeam_lt : IsSeam '<' := by decide

theorem IsTag.seam (h : IsTag jsx token m) : ∀ c ∈ token.getLast?, c = '>' := by
  obtain ⟨c, body, rfl, -, -⟩ := h.shape
  intro d hd
  rw [List.getLast?_append] at hd
  cases hd
  rfl

theorem mem_tokens_append {front rest token : List Char} (ne : front ≠ [])
    (hf : tagOrText (front ++ rest) = some rest) (h : token ∈ tokens (front ++ rest)) :
    token = Text.trim front ∨ token ∈ tokens rest := by
  rw [tokens_append ne hf, List.mem_append] at h
  refine h.imp_left fun h => ?_
  split at h
  · cases h
  · exact List.mem_singleton.mp h

theorem clean_lead {front rest : List Char} (hf : '<' ∉ front) (hr : ∀ c ∈ rest.head?, c = '<')
    (clean : Clean front) (others : ∀ token ∈ tokens rest, Clean token) :
    ∀ token ∈ tokens (front ++ rest), Clean token := by
  rcases eq_or_ne front [] with rfl | ne
  · exact others
  · intro token h
    rcases mem_tokens_append ne (tagOrText_text ne hf hr) h with rfl | h
    · exact clean.trim
    · exact others token h

theorem Woven.clean_tokens (h : Woven jsx text m) (clean : Clean text) :
    ∀ token ∈ Markup.tokens text, Clean token := by
  induction h with
  | @text front hf =>
    have none : ∀ token ∈ Markup.tokens [], Clean token := fun token h => by cases h
    simpa using clean_lead hf (by simp) clean none
  | @tag front token rest m n hf ht _ ih =>
    have shape := ht.shape
    rw [List.append_assoc] at clean ⊢
    have behind : Clean (token ++ rest) := by
      obtain ⟨c, body, rfl, -, -⟩ := shape
      exact clean.cut isSeam_lt (by decide)
    have later := ih (behind.right fun c hc => by rw [ht.seam c hc]; decide)
    have starts : ∀ c ∈ (token ++ rest).head?, c = '<' := by
      obtain ⟨c, body, rfl, -, -⟩ := shape
      simp
    refine clean_lead hf starts clean.left fun other ho => ?_
    rcases mem_tokens_append ht.ne_nil (ht.tagOrText rest) ho with rfl | ho
    · exact ht.trim.symm ▸ behind.left
    · exact later other ho

theorem clean_indented (h : Clean text) (indent : Nat) :
    Clean (List.replicate indent ' ' ++ text) := by
  refine (clean_of_not_mem (not_mem_indent indent (by decide))).append h (.inl fun c hc => ?_)
  obtain rfl := List.eq_of_mem_replicate (List.mem_of_getLast? hc)
  decide

theorem Laid.clean {lines : List Line} {tokens : List (List Char)} (h : Laid jsx lines tokens m)
    (clean : ∀ token ∈ tokens, Clean token) : ∀ line ∈ lines, Clean line.render := by
  induction h with
  | nil => simp
  | token indent _ _ ih =>
    obtain ⟨first, others⟩ := List.forall_mem_cons.mp clean
    exact List.forall_mem_cons.mpr ⟨clean_indented first indent, ih others⟩
  | element indent ho hc hn _ ih =>
    obtain ⟨opened, rest⟩ := List.forall_mem_cons.mp clean
    obtain ⟨content, rest⟩ := List.forall_mem_cons.mp rest
    obtain ⟨closed, others⟩ := List.forall_mem_cons.mp rest
    refine List.forall_mem_cons.mpr ⟨clean_indented ?_ indent, ih others⟩
    refine (opened.append content (.inl fun c hc => ?_)).append closed (.inr fun c hc => ?_)
    · rw [ho.seam c hc]
      decide
    · cases hc
      exact isSeam_lt

theorem Woven.clean_layout (h : Woven jsx text m) (clean : Clean text) (indent step : Int) :
    ∀ line ∈ layout indent step text, Clean line := by
  intro line hl
  obtain ⟨laid, hm, rfl⟩ := List.mem_map.mp hl
  exact (h.tokens.laid indent step 0).clean (h.clean_tokens clean) laid hm

end Handoff.Markup
