import Handoff.Proofs.Text.Lines
import Handoff.Stylesheet.Comment

/-! # Comments of a whole text

By the grammar of stylesheets a comment runs from its mark to the first mark of an end behind it, or
to the end of the text. The lines of a text are blanked one by one with the open comment carried on,
which comes to one walk over the text. The walk looks for the end from the star of the mark on, so
that a slash behind a mark ends the comment. The lines are those of the blanked text if and only if
nothing but blanks stands between such a slash and the next mark or the end of the text.
-/

namespace Handoff.Stylesheet

open Text

variable {c : Char} {rest : List Char}

/-! ## The grammar -/

def openMark : List Char := ['/', '*']

def closeMark : List Char := ['*', '/']

/-- What a character of a comment becomes: a space, unless it is a newline. -/
def blankChar (c : Char) : Char := if c = '\n' then c else ' '

mutual

def blankText : List Char → List Char
  | '/' :: '*' :: body => ' ' :: ' ' :: blankBody body
  | c :: rest => c :: blankText rest
  | [] => []
termination_by structural text => text

def blankBody : List Char → List Char
  | '*' :: '/' :: rest => ' ' :: ' ' :: blankText rest
  | c :: rest => blankChar c :: blankBody rest
  | [] => []
termination_by structural body => body

end

mutual

/-- What follows the mark of each comment in a text outside of comments. -/
def bodies : List Char → List (List Char)
  | '/' :: '*' :: body => body :: innerBodies body
  | _ :: rest => bodies rest
  | [] => []
termination_by structural text => text

/-- What follows the mark of each comment in a text that begins within a comment. -/
def innerBodies : List Char → List (List Char)
  | '*' :: '/' :: rest => bodies rest
  | _ :: rest => innerBodies rest
  | [] => []
termination_by structural body => body

end

theorem blankText_cons (h : ¬ openMark <+: c :: rest) :
    blankText (c :: rest) = c :: blankText rest := by
  rw [blankText]
  rintro body rfl rfl
  exact h ⟨body, rfl⟩

theorem blankBody_cons (h : ¬ closeMark <+: c :: rest) :
    blankBody (c :: rest) = blankChar c :: blankBody rest := by
  rw [blankBody]
  rintro tail rfl rfl
  exact h ⟨tail, rfl⟩

theorem bodies_cons (h : ¬ openMark <+: c :: rest) : bodies (c :: rest) = bodies rest := by
  rw [bodies]
  rintro body rfl rfl
  exact h ⟨body, rfl⟩

theorem innerBodies_cons (h : ¬ closeMark <+: c :: rest) :
    innerBodies (c :: rest) = innerBodies rest := by
  rw [innerBodies]
  rintro tail rfl rfl
  exact h ⟨tail, rfl⟩

/-! ## Line by line -/

/-- Lines with their block comments blanked, where the first line may begin within a comment. -/
def blankLines : Bool → List (List Char) → List (List Char)
  | _, [] => []
  | inside, line :: rest =>
    (blankComments false inside line).1 :: blankLines (blankComments false inside line).2 rest

/-- Blanks the comments of a text as they are blanked in its lines. -/
def blankThrough : CommentState → List Char → List Char
  | _, [] => []
  | .leaving, c :: rest => blankChar c :: blankThrough (.code true) rest
  | .inside, c :: rest =>
    blankChar c :: blankThrough (if closeMark.isPrefixOf (c :: rest) then .leaving
      else .inside) rest
  | .code _, c :: rest =>
    if openMark.isPrefixOf (c :: rest) then ' ' :: blankThrough .inside rest
    else c :: blankThrough (.code true) rest

theorem blankThrough_code (armed : Bool) (text : List Char) :
    blankThrough (.code armed) text = blankThrough (.code true) text := by
  cases text <;> rfl

def lineState (inside : Bool) : CommentState := if inside then .inside else .code true

theorem blankThrough_newline (state : CommentState) (rest : List Char) :
    blankThrough state ('\n' :: rest) =
      '\n' :: blankThrough (lineState (state == .inside)) rest := by
  cases state with
  | code armed => simp [blankThrough, openMark, lineState]
  | inside => simp [blankThrough, closeMark, lineState, blankChar]
  | leaving => simp [blankThrough, lineState, blankChar]

theorem lines_newline (rest : List Char) : lines ('\n' :: rest) = [] :: lines rest := rfl

theorem lines_cons (h : c ≠ '\n') {first : List Char} {others : List (List Char)}
    (hr : lines rest = first :: others) : lines (c :: rest) = (c :: first) :: others := by
  rw [lines, pieces, ← lines, hr, if_neg (by simpa using h)]

theorem head?_line {first : List Char} {others : List (List Char)}
    (hr : lines rest = first :: others)
    {d : Char} (h : d ≠ '\n') : (first.head? == some d) = (rest.head? == some d) := by
  cases rest with
  | nil =>
    obtain ⟨rfl, -⟩ : first = [] ∧ others = [] := by simpa [lines, pieces, eq_comm] using hr
    rfl
  | cons e rest =>
    by_cases he : e = '\n'
    · subst he
      obtain ⟨rfl, -⟩ := List.cons.inj hr
      simpa using h.symm
    · obtain ⟨line, more, hm⟩ := List.exists_cons_of_ne_nil (pieces_ne_nil '\n' rest)
      rw [lines_cons he hm] at hr
      obtain ⟨rfl, -⟩ := List.cons.inj hr
      rfl

theorem isPrefixOf_pair (a b : Char) (rest : List Char) :
    [a, b].isPrefixOf (c :: rest) = (c == a && rest.head? == some b) := by
  cases rest <;> simp [List.isPrefixOf, Bool.beq_comm]

theorem blankLines_through (state : CommentState) (before : Option Char) {text first : List Char}
    {others : List (List Char)} (h : lines text = first :: others) :
    (blankFrom false state before first).1 :: blankLines
      (blankFrom false state before first).2 others =
      lines (blankThrough state text) := by
  induction text generalizing state before first others with
  | nil =>
    obtain ⟨rfl, rfl⟩ : first = [] ∧ others = [] := by simpa [lines, pieces, eq_comm] using h
    cases state <;> rfl
  | cons c rest ih =>
    obtain ⟨line, more, hr⟩ : ∃ line more, lines rest = line :: more :=
      List.exists_cons_of_ne_nil (pieces_ne_nil '\n' rest)
    by_cases hc : c = '\n'
    · subst hc
      have finished : blankFrom false state before [] = ([], state == .inside) := by
        cases state <;> rfl
      rw [lines_newline, hr] at h
      obtain ⟨rfl, rfl⟩ := List.cons.inj h
      rw [blankThrough_newline, lines_newline, finished,
        ← ih (lineState (state == .inside)) none hr]
      rfl
    · rw [lines_cons hc hr] at h
      obtain ⟨rfl, rfl⟩ := List.cons.inj h
      have behind {d : Char} (hd : d ≠ '\n') (state' : CommentState) :
          (d :: (blankFrom false state' (some c) line).1) ::
            blankLines (blankFrom false state' (some c) line).2 more =
              lines (d :: blankThrough state' rest) :=
        (lines_cons hd (ih state' (some c) hr).symm).symm
      have blank : blankChar c = ' ' := if_neg hc
      have space : ' ' ≠ '\n' := by decide
      cases state with
      | leaving =>
        rw [blankThrough, blank]
        exact behind space (.code true)
      | inside =>
        rw [blankThrough, closeMark, isPrefixOf_pair, ← head?_line hr (by decide), blank]
        exact behind space _
      | code armed =>
        rw [blankThrough, openMark, isPrefixOf_pair, ← head?_line hr (by decide)]
        by_cases mark : (c == '/' && line.head? == some '*') = true
        · rw [blankFrom, if_pos mark, if_pos mark]
          exact behind space .inside
        · rw [blankFrom, if_neg mark, if_neg mark, ← blankThrough_code armed]
          exact behind hc (.code armed)

theorem blankLines_lines (inside : Bool) (text : List Char) :
    blankLines inside (lines text) = lines (blankThrough (lineState inside) text) := by
  obtain ⟨first, others, h⟩ := List.exists_cons_of_ne_nil (pieces_ne_nil '\n' text)
  rw [← blankLines_through (lineState inside) none h]
  exact congrArg (blankLines inside) h

/-! ## The whole text -/

section Whole

variable {text body : List Char}

/-- The star of the mark may be the star of the end. -/
theorem blankThrough_close (rest : List Char) :
    blankThrough .inside ('*' :: '/' :: rest) = ' ' :: ' ' :: blankThrough (.code true) rest := rfl

theorem blankThrough_code_cons (h : ¬ openMark <+: c :: rest) :
    blankThrough (.code true) (c :: rest) = c :: blankThrough (.code true) rest := by
  rw [blankThrough, if_neg fun start => h (List.isPrefixOf_iff_prefix.mp start)]

theorem blankThrough_inside_cons (h : ¬ closeMark <+: c :: rest) :
    blankThrough .inside (c :: rest) = blankChar c :: blankThrough .inside rest := by
  rw [blankThrough, if_neg fun start => h (List.isPrefixOf_iff_prefix.mp start)]

theorem head?_blankBody (c : Char) (rest : List Char) :
    (blankBody (c :: rest)).head? = some (blankChar c) := by
  by_cases mark : closeMark <+: c :: rest
  · obtain ⟨tail, ht⟩ := mark
    obtain ⟨rfl, rfl⟩ := List.cons.inj ht
    rfl
  · rw [blankBody_cons mark, List.head?_cons]

/-- Nothing but blanks stands in a text before the first mark of a comment or the end. -/
def IsGap (text : List Char) : Prop :=
  text.dropWhile (fun c => blankChar c == c) = [] ∨
  openMark <+: text.dropWhile (fun c => blankChar c == c)

theorem isGap_cons (h : blankChar c = c) : IsGap (c :: rest) ↔ IsGap rest := by
  simp [IsGap, h]

theorem isGap_cons_of_ne (h : blankChar c ≠ c) : IsGap (c :: rest) ↔ openMark <+: c :: rest := by
  simp [IsGap, h]

/-- Where a slash stands behind the mark of a comment, a gap follows. -/
def Gapped (bodies : List (List Char)) : Prop := ∀ rest, '/' :: rest ∈ bodies → IsGap rest

theorem gapped_nil : Gapped [] := fun _ h => absurd h List.not_mem_nil

theorem gapped_slash (rest : List Char) (more : List (List Char)) :
    Gapped (('/' :: rest) :: more) ↔ IsGap rest ∧ Gapped more := by
  simp only [Gapped, List.mem_cons, List.cons.injEq, true_and, or_imp, forall_and, forall_eq]

theorem gapped_other (h : body.head? ≠ some '/') (more : List (List Char)) :
    Gapped (body :: more) ↔ Gapped more := by
  have other (rest : List Char) : '/' :: rest ≠ body := fun he => h (he ▸ rfl)
  simp only [Gapped, List.mem_cons, other, false_or]

/-- How the walk over a text and the grammar agree when they begin at the same place: both outside
of comments, both within one, or only the walk already behind it. -/
structure Agrees (text : List Char) : Prop where
  outside : blankThrough (.code true) text = blankText text ↔ Gapped (bodies text)
  within : blankThrough .inside text = blankBody text ↔ Gapped (innerBodies text)
  behind : blankThrough (.code true) text = blankBody text ↔ IsGap text ∧ Gapped (innerBodies text)

theorem agrees_nil : Agrees [] where
  outside := iff_of_true rfl gapped_nil
  within := iff_of_true rfl gapped_nil
  behind := iff_of_true rfl ⟨.inl rfl, gapped_nil⟩

section Step

variable (shorter : ∀ text : List Char, text.length < (c :: rest).length → Agrees text)
include shorter

theorem outside_cons :
    blankThrough (.code true) (c :: rest) = blankText (c :: rest) ↔
      Gapped (bodies (c :: rest)) := by
  by_cases mark : openMark <+: c :: rest
  · obtain ⟨body, hb⟩ := mark
    obtain ⟨rfl, rfl⟩ := List.cons.inj hb
    change ' ' :: blankThrough .inside ('*' :: body) = ' ' :: ' ' :: blankBody body ↔
      Gapped (body :: innerBodies body)
    by_cases slash : body.head? = some '/'
    · obtain ⟨inner, rfl⟩ := List.head?_eq_some_iff.mp slash
      have unclosed : ¬ closeMark <+: '/' :: inner := by simp [closeMark]
      have less : inner.length < ('/' :: '*' :: '/' :: inner).length := by
        simp only [List.length_cons]; omega
      rw [gapped_slash, innerBodies_cons unclosed, ← (shorter inner less).behind,
        blankThrough_close, blankBody_cons unclosed]
      simp [blankChar]
    · have unclosed : ¬ closeMark <+: '*' :: body := by
        rintro ⟨tail, ht⟩
        obtain ⟨-, rfl⟩ := List.cons.inj ht
        exact slash rfl
      have less : body.length < ('/' :: '*' :: body).length := by
        simp only [List.length_cons]; omega
      rw [gapped_other slash, ← (shorter body less).within, blankThrough_inside_cons unclosed]
      simp [blankChar]
  · rw [blankThrough_code_cons mark, blankText_cons mark, bodies_cons mark,
      ← (shorter rest (by simp)).outside, List.cons_inj_right]

theorem within_cons :
    blankThrough .inside (c :: rest) = blankBody (c :: rest) ↔
      Gapped (innerBodies (c :: rest)) := by
  by_cases mark : closeMark <+: c :: rest
  · obtain ⟨tail, ht⟩ := mark
    obtain ⟨rfl, rfl⟩ := List.cons.inj ht
    change ' ' :: ' ' :: blankThrough (.code true) tail = ' ' :: ' ' :: blankText tail ↔
      Gapped (bodies tail)
    have less : tail.length < ('*' :: '/' :: tail).length := by simp only [List.length_cons]; omega
    rw [← (shorter tail less).outside, List.cons_inj_right, List.cons_inj_right]
  · rw [blankThrough_inside_cons mark, blankBody_cons mark, innerBodies_cons mark,
      ← (shorter rest (by simp)).within, List.cons_inj_right]

theorem behind_cons : blankThrough (.code true) (c :: rest) = blankBody (c :: rest) ↔
    IsGap (c :: rest) ∧ Gapped (innerBodies (c :: rest)) := by
  by_cases blank : blankChar c = c
  · have unopened : ¬ openMark <+: c :: rest := by
      rintro ⟨tail, ht⟩
      obtain ⟨rfl, -⟩ := List.cons.inj ht
      exact absurd blank (by decide)
    have unclosed : ¬ closeMark <+: c :: rest := by
      rintro ⟨tail, ht⟩
      obtain ⟨rfl, -⟩ := List.cons.inj ht
      exact absurd blank (by decide)
    rw [blankThrough_code_cons unopened, blankBody_cons unclosed, innerBodies_cons unclosed,
      isGap_cons blank, ← (shorter rest (by simp)).behind, blank, List.cons_inj_right]
  · rw [isGap_cons_of_ne blank]
    by_cases mark : openMark <+: c :: rest
    · obtain ⟨tail, ht⟩ := mark
      obtain ⟨rfl, rfl⟩ := List.cons.inj ht
      -- The slash is blank to both, and from the star on both are within a comment.
      have unclosed : ¬ closeMark <+: '/' :: '*' :: tail := by simp [closeMark]
      change ' ' :: blankThrough .inside ('*' :: tail) = blankBody ('/' :: '*' :: tail) ↔
        openMark <+: '/' :: '*' :: tail ∧ Gapped (innerBodies ('/' :: '*' :: tail))
      rw [blankBody_cons unclosed, innerBodies_cons unclosed,
        ← (shorter ('*' :: tail) (by simp)).within]
      simp [blankChar, openMark]
    · refine iff_of_false (fun same => blank ?_) fun h => mark h.1
      have heads := congrArg List.head? same
      rw [blankThrough_code_cons mark, head?_blankBody] at heads
      exact (Option.some.inj heads).symm

end Step

theorem agrees : (text : List Char) → Agrees text
  | [] => agrees_nil
  | c :: rest =>
    have shorter (text : List Char) (_ : text.length < (c :: rest).length) : Agrees text :=
      agrees text
    ⟨outside_cons shorter, within_cons shorter, behind_cons shorter⟩
termination_by text => text.length
decreasing_by assumption

end Whole

/-- Lines are blanked one by one as the whole text is, if and only if no comment has a slash behind
its mark and then something else than a gap. -/
theorem blankLines_eq_iff (text : List Char) :
    blankLines false (lines text) = lines (blankText text) ↔
      ∀ rest, '/' :: rest ∈ bodies text → IsGap rest := by
  rw [blankLines_lines, lines_inj]
  exact (agrees text).outside

/-- A slash behind the mark ends the comment, and what it holds is left as it is. -/
theorem blankLines_slash_behind_mark :
    blankLines false (lines "/*/ a */".toList) = ["    a */".toList] ∧
      lines (blankText "/*/ a */".toList) = ["        ".toList] := by
  decide +kernel

end Handoff.Stylesheet
