import Handoff.Proofs.Markup.Layout

/-! # Renaming in laid-out markup

Markup is cut at its brackets and trimmed of its spaces. No name goes across a bracket, and no
equals sign is lost to a name with the spaces, so the tokens of a renamed text are the renamed
tokens. The marks by which tags are told apart are no names, so each renamed line stands where the
line stands.
-/

namespace Handoff.Markup

open Text

variable {f : List Char → List Char} {text token front rest gap : List Char}

/-! ## Tokens of any text -/

/-- Every text is read as tags, as texts between tags, and as opening brackets that start no tag. -/
theorem token_induction {motive : List Char → Prop} (nil : motive [])
    (lead : ∀ front rest, front ≠ [] → '<' ∉ front → (∀ c ∈ rest.head?, c = '<') → motive rest →
      motive (front ++ rest))
    (tag : ∀ body rest, body ≠ [] → '>' ∉ body → motive rest → motive ('<' :: body ++ '>' :: rest))
    (stray : ∀ rest, rest.head? = some '>' ∨ '>' ∉ rest → motive rest → motive ('<' :: rest))
    (text : List Char) : motive text := by
  induction h : text.length using Nat.strongRecOn generalizing text with
  | ind n ih =>
    subst h
    cases text with
    | nil => exact nil
    | cons c rest =>
      rcases eq_or_ne c '<' with rfl | hc
      · have behind := ih rest.length (by simp) rest rfl
        by_cases hm : '>' ∈ rest
        · obtain ⟨body, after, rfl, free⟩ := List.eq_append_cons_of_mem hm
          rcases eq_or_ne body [] with rfl | ne
          · exact stray _ (.inl rfl) behind
          · exact tag body after ne free (ih after.length (by simp; omega) after rfl)
        · exact stray rest (.inr hm) behind
      · have split := (List.takeWhile_append_dropWhile (p := (· != '<')) (l := rest)).symm
        rw [split, ← List.cons_append]
        refine lead _ _ (List.cons_ne_nil c _) ?_ (fun d hd => ?_) (ih _ ?_ _ rfl)
        · exact List.mem_cons.not.mpr (not_or.mpr ⟨hc.symm, not_mem_takeWhile_ne '<' rest⟩)
        · have first := List.head?_dropWhile_not (· != '<') rest
          rw [Option.mem_def.mp hd] at first
          simpa using first
        · exact Nat.lt_succ_of_le (List.length_dropWhile_le ..)

theorem tokens_lead (ne : front ≠ []) (hf : '<' ∉ front) (hr : ∀ c ∈ rest.head?, c = '<') :
    tokens (front ++ rest) = (if (trim front).isEmpty then [] else [trim front]) ++ tokens rest :=
  tokens_append ne (tagOrText_text ne hf hr)

theorem tokens_content (free : '<' ∉ front) (hr : ∀ c ∈ rest.head?, c = '<') :
    tokens (front ++ rest) =
      (if (trim front).isEmpty then [] else [trim front]) ++ tokens rest := by
  rcases eq_or_ne front [] with rfl | ne
  · rfl
  · exact tokens_lead ne free hr

theorem not_mem_spaces {c : Char} (spaces : ∀ d ∈ gap, isSpace d = true) (hc : isSpace c = false) :
    c ∉ gap :=
  fun hm => ne_true_of_eq_false hc (spaces c hm)

theorem trim_spaces (spaces : ∀ c ∈ gap, isSpace c = true) : trim gap = [] := by
  have whole := trimBoth_append_left spaces []
  rwa [List.append_nil] at whole

theorem tokens_gap (spaces : ∀ c ∈ gap, isSpace c = true) (hr : ∀ c ∈ rest.head?, c = '<') :
    tokens (gap ++ rest) = tokens rest := by
  rw [tokens_content (not_mem_spaces spaces (by decide)) hr, trim_spaces spaces]
  rfl

theorem tokens_tag {body : List Char} (ne : body ≠ []) (hb : '>' ∉ body) (rest : List Char) :
    tokens ('<' :: body ++ '>' :: rest) = ('<' :: body ++ ['>']) :: tokens rest := by
  have taken : tagOrText ('<' :: body ++ ['>'] ++ rest) = some rest := by
    simpa using tagOrText_tag ne hb rest
  rw [List.append_cons, tokens_append (by simp) taken, trim_tag]
  rfl

theorem tagOrText_stray (h : rest.head? = some '>' ∨ '>' ∉ rest) :
    tagOrText ('<' :: rest) = none := by
  have noTag : tag ('<' :: rest) = none := by
    cases rest with
    | nil => rfl
    | cons c rest =>
      rcases h with h | h
      · obtain rfl : c = '>' := by simpa using h
        rfl
      · obtain ⟨hc, hm⟩ := List.ne_and_not_mem_of_not_mem_cons h
        have all : rest.dropWhile (· != '>') = [] :=
          List.dropWhile_eq_nil_iff.mpr fun d hd => by simpa using ne_of_mem_of_not_mem hd hm
        simp [tag, hc.symm, all]
  simp [tagOrText, Recogniser.orElse, noTag, Recogniser.oneOrMore]

theorem tokens_stray (h : rest.head? = some '>' ∨ '>' ∉ rest) :
    tokens ('<' :: rest) = tokens rest := by
  rw [tokens, tokens, occurrences_cons (tagOrText_stray h)]

theorem tag_of_mem_tokens (h : token ∈ tokens text) (ht : isTag token = true) :
    ∃ body, token = '<' :: body ++ ['>'] := by
  induction text using token_induction with
  | nil => cases h
  | lead front rest ne hf hr ih =>
    rw [tokens_lead ne hf hr, List.mem_append] at h
    rcases h with h | h
    · split at h
      · cases h
      · rw [List.mem_singleton.mp h] at ht
        exact absurd (List.mem_of_head? (by simpa [isTag] using ht)) (not_mem_trim hf)
    · exact ih h
  | tag body rest ne hb ih =>
    rw [tokens_tag ne hb, List.mem_cons] at h
    rcases h with rfl | h
    · exact ⟨body, rfl⟩
    · exact ih h
  | stray rest hr ih =>
    rw [tokens_stray hr] at h
    exact ih h

/-! ## Renamed tokens -/

theorem mapNames_eq_nil_iff : mapNames f text = [] ↔ text = [] := by
  rw [← List.getLast?_eq_none_iff, getLast?_mapNames, List.getLast?_eq_none_iff]

theorem head?_mapNames_solid (hf : KeepsNames f) (h : ∀ c ∈ text.head?, isSpace c = false) :
    ∀ c ∈ (mapNames f text).head?, isSpace c = false := by
  induction text using run_induction with
  | nil => simp
  | cons c rest hc _ =>
    rw [mapNames_cons f hc]
    exact h
  | run name rest hn hr _ =>
    have solid {name : List Char} (hn : IsName name) (rest : List Char) :
        ∀ c ∈ (name ++ rest).head?, isSpace c = false := fun c hc => by
      rw [List.head?_append_of_ne_nil _ hn.ne_nil] at hc
      exact isSpace_of_continues (hn.continues c (List.mem_of_head? hc))
    rw [mapNames_run f hn hr]
    split
    · exact solid (hf name hn) _
    · exact solid hn _

theorem trim_mapNames (hf : KeepsNames f) (text : List Char) :
    trim (mapNames f text) = mapNames f (trim text) := by
  obtain ⟨before, after, he, hb, ha⟩ := trimBoth_around isSpace text
  have apart : ∀ c ∈ before, continuesName c = false := fun c hc =>
    continuesName_of_isSpace (hb c hc)
  have trimmed : trimBoth isSpace (mapNames f (trim text)) = mapNames f (trim text) := by
    refine trimBoth_eq_self (head?_mapNames_solid hf (head?_trimBoth isSpace text)) ?_
    rw [getLast?_mapNames]
    exact getLast?_trimBoth isSpace text
  calc trim (mapNames f text)
      = trimBoth isSpace (mapNames f (before ++ trim text ++ after)) :=
        congrArg (fun x => trimBoth isSpace (mapNames f x)) he
    _ = trimBoth isSpace (before ++ mapNames f (trim text) ++ after) := by
      rw [mapNames_append_spaces f _ ha, mapNames_append_parted f apart]
    _ = mapNames f (trim text) := by
      rw [trimBoth_append_right ha, trimBoth_append_left hb, trimmed]

theorem mapNames_lead (f : List Char → List Char) (front : List Char)
    (hr : ∀ c ∈ rest.head?, c = '<') :
    mapNames f (front ++ rest) = mapNames f front ++ mapNames f rest := by
  cases rest with
  | nil => simp
  | cons c rest =>
    obtain rfl := hr c rfl
    rw [mapNames_append_bar f isBar_lt, mapNames_cons f isBar_lt.parts]

theorem mapNames_tag (f : List Char → List Char) (body rest : List Char) :
    mapNames f ('<' :: body ++ '>' :: rest) = '<' :: mapNames f body ++ '>' :: mapNames f rest := by
  rw [mapNames_append_bar f isBar_gt, mapNames_cons f isBar_lt.parts]

theorem tokens_mapNames (hf : KeepsNames f) (text : List Char) :
    tokens (mapNames f text) = (tokens text).map (mapNames f) := by
  induction text using token_induction with
  | nil => rw [mapNames_nil]; rfl
  | lead front rest ne hl hr ih =>
    have starts : ∀ c ∈ (mapNames f rest).head?, c = '<' := by
      cases rest with
      | nil => simp
      | cons c rest =>
        obtain rfl := hr c rfl
        rw [mapNames_cons f isBar_lt.parts]
        exact hr
    rw [mapNames_lead f front hr, tokens_lead (mapNames_eq_nil_iff.not.mpr ne)
      (not_mem_mapNames hf isBar_lt.parts hl) starts, tokens_lead ne hl hr, trim_mapNames hf,
      List.map_append, ih]
    congr 1
    cases trim front with
    | nil => simp
    | cons c kept => simp [mapNames_eq_nil_iff]
  | tag body rest ne hb ih =>
    rw [mapNames_tag, tokens_tag (mapNames_eq_nil_iff.not.mpr ne)
      (not_mem_mapNames hf isBar_gt.parts hb), tokens_tag ne hb, List.map_cons, mapNames_tag, ih,
      mapNames_nil]
  | stray rest hr ih =>
    have still : (mapNames f rest).head? = some '>' ∨ '>' ∉ mapNames f rest := by
      refine hr.imp (fun first => ?_) (not_mem_mapNames hf isBar_gt.parts)
      obtain ⟨rest, rfl⟩ := List.head?_eq_some_iff.mp first
      rw [mapNames_cons f isBar_gt.parts]
      rfl
    rw [mapNames_cons f isBar_lt.parts, tokens_stray still, tokens_stray hr, ih]

/-! ## Renamed lines -/

theorem isClosing_mapNames (hf : KeepsNames f) (token : List Char) :
    isClosing (mapNames f token) = isClosing token :=
  isPrefixOf_mapNames hf (by decide) token

theorem isTag_eq_isPrefixOf (token : List Char) : isTag token = ['<'].isPrefixOf token := by
  cases token with
  | nil => rfl
  | cons c rest => simp [isTag, List.isPrefixOf, Bool.beq_eq_decide_eq, eq_comm]

theorem isTag_mapNames (hf : KeepsNames f) (token : List Char) :
    isTag (mapNames f token) = isTag token := by
  rw [isTag_eq_isPrefixOf, isTag_eq_isPrefixOf, isPrefixOf_mapNames hf (by decide)]

theorem isSuffixOf_mapNames (f : List Char → List Char) (token : List Char) :
    "/>".toList.isSuffixOf (mapNames f token) = "/>".toList.isSuffixOf token := by
  rw [Bool.eq_iff_iff, List.isSuffixOf_iff_suffix, List.isSuffixOf_iff_suffix]
  have slash : IsBar '/' := ⟨by decide, by decide, by decide⟩
  constructor
  · rintro ⟨image, he⟩
    have last : token.getLast? = some '>' := by rw [← getLast?_mapNames f, ← he]; simp
    obtain ⟨front, rfl⟩ := List.getLast?_eq_some_iff.mp last
    rw [mapNames_append_bar f isBar_gt, mapNames_nil] at he
    have behind : front.getLast? = some '/' := by
      have kept : image ++ ['/'] = mapNames f front :=
        (List.append_left_inj ['>']).mp (by simpa using he)
      rw [← getLast?_mapNames f, ← kept, List.getLast?_append]
      rfl
    obtain ⟨front, rfl⟩ := List.getLast?_eq_some_iff.mp behind
    exact ⟨front, by simp⟩
  · rintro ⟨front, rfl⟩
    exact ⟨mapNames f front, by
      rw [show "/>".toList = '/' :: ['>'] from rfl, mapNames_append_bar f slash,
        mapNames_cons f isBar_gt.parts, mapNames_nil]⟩

theorem isOpening_mapNames (hf : KeepsNames f) (token : List Char) :
    isOpening (mapNames f token) = isOpening token := by
  rw [isOpening, isOpening, isTag_mapNames hf, isClosing_mapNames hf, isSuffixOf_mapNames]

theorem keepsKinds_mapNames (hf : KeepsNames f) : KeepsKinds (mapNames f) where
  tag := isTag_mapNames hf
  closing := isClosing_mapNames hf
  opening := isOpening_mapNames hf

/-- An element with nothing but text is put together at its brackets, which no name goes across. -/
theorem mapNames_element (f : List Char → List Char) {opened closing : List Char}
    (ho : ∃ body, opened = '<' :: body ++ ['>']) (content : List Char)
    (hc : isClosing closing = true) :
    mapNames f (opened ++ content ++ closing) =
      mapNames f opened ++ mapNames f content ++ mapNames f closing := by
  obtain ⟨body, rfl⟩ := ho
  obtain ⟨name, rfl⟩ := List.isPrefixOf_iff_prefix.mp hc
  rw [mapNames_lead f _ (by simp), List.append_assoc ('<' :: body), List.singleton_append,
    mapNames_tag, mapNames_tag, mapNames_nil]
  simp

theorem render_mapNames (f : List Char → List Char) (line : Line) :
    (line.map id (mapNames f)).render = mapNames f line.render := by
  have blank : ∀ c ∈ List.replicate line.indent ' ', continuesName c = false := fun c hc => by
    obtain rfl := List.eq_of_mem_replicate hc
    decide
  exact (mapNames_append_parted f blank line.text).symm

/-- The lines of a renamed text are the renamed lines of the text. -/
theorem layout_mapNames (hf : KeepsNames f) (indent step : Int) (text : List Char) :
    layout indent step (mapNames f text) = (layout indent step text).map (mapNames f) := by
  have element : ∀ opened ∈ tokens text, isTag opened = true → ∀ content closing,
      isClosing closing = true → mapNames f (opened ++ content ++ closing) =
        mapNames f opened ++ mapNames f content ++ mapNames f closing :=
    fun _ ho ht content _ => mapNames_element f (tag_of_mem_tokens ho ht) content
  have lines : linesFrom indent step 0 ((tokens text).map (mapNames f)) =
      (linesFrom indent step 0 (tokens text)).map (Line.map id (mapNames f)) :=
    linesFrom_map (keepsKinds_mapNames hf) (fun _ => rfl) element 0
  rw [layout, layout, tokens_mapNames hf, lines, List.map_map, List.map_map]
  exact List.map_congr_left fun line _ => render_mapNames f line

end Handoff.Markup
