import Handoff.Proofs.Markup.Clean
import Handoff.Proofs.Markup.Tree

/-! # The root of a document in normal form

The normal form of a document is the document with its attributes renamed. Its root is read back as
it was written: the attributes are those of the root in their order, and what stands inside spells
the marks of the elements below the root.
-/

namespace Handoff.Markup

open Text

variable {jsx : Bool} {name rest text x y : List Char} {c : Char} {f : List Char → List Char}

/-! ## Renaming attributes -/

def Starts (text : List Char) : Prop := ∀ c ∈ text.head?, startsAttribute c = true

theorem Starts.append (ne : x ≠ []) (h : Starts x) : Starts (x ++ y) := by
  obtain ⟨c, x, rfl⟩ := List.exists_cons_of_ne_nil ne
  exact h

theorem starts_imageOf (h : Starts name) : Starts (imageOf jsxPairs name) := by
  rcases imageOf_jsxPairs_cases name with ⟨pair, hp, -, he⟩ | ⟨-, he⟩
  · have all : ∀ pair ∈ jsxPairs, ∀ c ∈ pair.2.head?, startsAttribute c = true := by decide
    rw [he]
    exact all pair hp
  · rw [he]
    exact h

theorem continuesAttribute_of_continuesName (h : continuesName c = true) :
    continuesAttribute c = true := by
  simp only [continuesName, continuesAttribute, Bool.or_eq_true] at h ⊢
  rcases h with (h | h) | h <;> simp [h]

/-- Before an equals sign, characters of a name of an attribute become others. Of several parts with
points between them, only the last is renamed. -/
theorem mapNames_before_equals (hf : KeepsNames f) (hs : ∀ name, Starts name → Starts (f name))
    (continues : ∀ c ∈ name, continuesAttribute c = true) :
    ∃ image, (∀ c ∈ image, continuesAttribute c = true) ∧ (name ≠ [] → image ≠ []) ∧
      (Starts name → Starts image) ∧
      ∀ rest, mapNames f (name ++ '=' :: rest) = image ++ '=' :: mapNames f rest := by
  have equals : continuesName '=' = false := by decide
  induction name using run_induction with
  | nil => exact ⟨[], by simp, fun h => h, fun h => h, mapNames_cons f equals⟩
  | cons c name hc ih =>
    obtain ⟨first, others⟩ := List.forall_mem_cons.mp continues
    obtain ⟨image, hi, -, -, mapped⟩ := ih others
    refine ⟨c :: image, List.forall_mem_cons.mpr ⟨first, hi⟩, by simp, fun h => h, fun rest => ?_⟩
    rw [List.cons_append, mapNames_cons f hc, mapped, List.cons_append]
  | run run name hr parted ih =>
    obtain ⟨first, others⟩ := List.forall_mem_append.mp continues
    obtain ⟨image, hi, -, -, mapped⟩ := ih others
    obtain ⟨part, hp⟩ : ∃ part, part = if isAssigned (name ++ ['=']) then f run else run := ⟨_, rfl⟩
    have kept : IsName part ∧ (Starts run → Starts part) := by
      rw [hp]
      split
      · exact ⟨hf run hr, hs run⟩
      · exact ⟨hr, fun h => h⟩
    have whole : ∀ rest, mapNames f (run ++ name ++ '=' :: rest) =
        part ++ image ++ '=' :: mapNames f rest := by
      intro rest
      rw [List.append_assoc, mapNames_run f hr (parted.append (parted_cons equals)),
        isAssigned_append_cons (by decide), ← hp, mapped, List.append_assoc]
    refine ⟨part ++ image, List.forall_mem_append.mpr ⟨fun c hc => ?_, hi⟩,
      fun _ => by simp [kept.1.ne_nil], fun start => ?_, whole⟩
    · exact continuesAttribute_of_continuesName (kept.1.continues c hc)
    · refine (kept.2 fun c hc => start c ?_).append kept.1.ne_nil
      rw [List.head?_append_of_ne_nil _ hr.ne_nil]
      exact hc

theorem Assignment.mapNames (hf : KeepsNames f) (hs : ∀ name, Starts name → Starts (f name))
    (entry : Assignment) : ∃ image : Assignment,
      ∀ rest, Markup.mapNames f (entry.render ++ rest) = image.render ++
        Markup.mapNames f rest := by
  obtain ⟨gap, name, value, ne, spaces, ⟨hn, first, continues⟩, quotable⟩ := entry
  obtain ⟨image, continues', ne', start, mapped⟩ := mapNames_before_equals hf hs continues
  have quote : IsBar '"' := ⟨by decide, by decide, by decide⟩
  have parted : ∀ c ∈ gap, continuesName c = false :=
    fun c hc => continuesTagName_of_continuesName (continuesTagName_of_isSpace (spaces c hc))
  refine ⟨⟨gap, image, Markup.mapNames f value, ne, spaces, ⟨ne' hn, start first, continues'⟩,
    quotable.mapNames hf⟩, fun rest => ?_⟩
  calc Markup.mapNames f (gap ++ name ++ '=' :: '"' :: value ++ ['"'] ++ rest)
      = Markup.mapNames f (gap ++ (name ++ '=' :: '"' :: (value ++ '"' :: rest))) := by simp
    _ = gap ++ (image ++ '=' :: Markup.mapNames f ('"' :: (value ++ '"' :: rest))) := by
      rw [mapNames_append_parted f parted, mapped]
    _ = gap ++ (image ++
        '=' :: '"' :: (Markup.mapNames f value ++ '"' :: Markup.mapNames f rest)) := by
      rw [mapNames_cons f quote.parts, mapNames_append_bar f quote]
    _ = gap ++ image ++ '=' :: '"' :: Markup.mapNames f value ++ ['"'] ++
      Markup.mapNames f rest := by
      simp

theorem mapNames_entries (hf : KeepsNames f) (hs : ∀ name, Starts name → Starts (f name))
    (entries : List Assignment) : ∃ images : List Assignment,
      ∀ rest, mapNames f (entries.flatMap Assignment.render ++ rest) =
        images.flatMap Assignment.render ++ mapNames f rest := by
  induction entries with
  | nil => exact ⟨[], fun rest => rfl⟩
  | cons entry entries ih =>
    obtain ⟨image, first⟩ := entry.mapNames hf hs
    obtain ⟨images, others⟩ := ih
    refine ⟨image :: images, fun rest => ?_⟩
    rw [List.flatMap_cons, List.append_assoc, first, others, List.flatMap_cons, List.append_assoc]

theorem Head.mapNames (hf : KeepsNames f) (hs : ∀ name, Starts name → Starts (f name))
    (head : Head) : ∃ image : Head,
      ∀ rest, Markup.mapNames f (head.render ++ rest) = image.render ++ Markup.mapNames f rest := by
  obtain ⟨images, mapped⟩ := mapNames_entries hf hs head.entries
  have parted : ∀ c ∈ head.gap, continuesName c = false :=
    fun c hc => continuesTagName_of_continuesName (continuesTagName_of_isSpace (head.spaces c hc))
  refine ⟨⟨images, head.gap, head.spaces⟩, fun rest => ?_⟩
  rw [render, List.append_assoc, mapped, mapNames_append_parted f parted, render, List.append_assoc]

/-! ## Reading attributes -/

def Assignment.toAttribute (entry : Assignment) : Attribute :=
  ⟨entry.name, '"' :: entry.value ++ ['"']⟩

section Marked

variable {mark closing : Char} {inner : List Char}

theorem value?_append (kind : closingMark? mark = some closing) (free : closing ∉ inner)
    (rest : List Char) :
    value? (mark :: (inner ++ closing :: rest)) = some (mark :: inner ++ [closing], rest) := by
  simp [value?, kind, takeWhile_ne_append free, dropWhile_ne_append free]

theorem not_isSpace_of_closingMark? (kind : closingMark? mark = some closing) :
    isSpace mark = false := by
  by_contra space
  have code := mem_spaceCodes (by simpa using space)
  unfold closingMark? at kind
  split_ifs at kind with double single brace
  · rw [eq_of_beq double] at code
    exact absurd code (by decide)
  · rw [eq_of_beq single] at code
    exact absurd code (by decide)
  · rw [eq_of_beq brace] at code
    exact absurd code (by decide)

/-- An attribute is read whose value stands between two marks of a kind. -/
theorem attribute?_append (named : IsAttributeName name) (kind : closingMark? mark = some closing)
    (free : closing ∉ inner) (rest : List Char) :
    attribute? (name ++ '=' :: mark :: (inner ++ closing :: rest)) =
      some (⟨name, mark :: inner ++ [closing]⟩, rest) := by
  obtain ⟨ne, first, continues⟩ := named
  obtain ⟨c, name, rfl⟩ := List.exists_cons_of_ne_nil ne
  obtain ⟨-, continues⟩ := List.forall_mem_cons.mp continues
  have stop : continuesAttribute '=' = false := by decide
  have behind : ∀ more, (name ++ '=' :: more).takeWhile continuesAttribute = name ∧
      (name ++ '=' :: more).dropWhile continuesAttribute = '=' :: more := fun more => by
    rw [List.takeWhile_append_of_pos continues, List.dropWhile_append_of_pos continues]
    simp [stop]
  have equals : isSpace '=' = false := by decide
  simp only [List.cons_append, attribute?, first c rfl, if_true, behind,
    List.dropWhile_cons, equals,
    not_isSpace_of_closingMark? kind, Bool.false_eq_true, if_false, value?_append kind free]
  rfl

end Marked

theorem attributesFrom_skip (taken rest : List Char) :
    attributesFrom taken.length (taken ++ rest) = attributes rest := by
  induction taken with
  | nil => rfl
  | cons c taken ih => exact ih

theorem attributes_take {taken : List Char} {entry : Attribute}
    (h : attribute? (c :: taken ++ rest) = some (entry, rest)) :
    attributes (c :: taken ++ rest) = entry :: attributes rest := by
  rw [List.cons_append] at h ⊢
  rw [attributes, attributesFrom, h]
  simp only [List.length_append, Nat.add_sub_cancel, attributesFrom_skip]

theorem attributes_spaces {gap : List Char} (h : ∀ c ∈ gap, isSpace c = true) (rest : List Char) :
    attributes (gap ++ rest) = attributes rest := by
  induction gap with
  | nil => rfl
  | cons c gap ih =>
    obtain ⟨hc, hg⟩ := List.forall_mem_cons.mp h
    have other : startsAttribute c = false := by
      by_contra hs
      exact ne_true_of_eq_false (isSpace_of_startsAttribute (by simpa using hs)) hc
    have none : attribute? (c :: (gap ++ rest)) = none := by simp [attribute?, other]
    rw [List.cons_append, attributes, attributesFrom, none]
    exact ih hg

/-- An attribute is read behind spaces, and what follows it is read by itself. -/
theorem attributes_gap {gap value : List Char} {mark closing : Char}
    (spaces : ∀ c ∈ gap, isSpace c = true)
    (named : IsAttributeName name) (kind : closingMark? mark = some closing)
      (free : closing ∉ value)
    (rest : List Char) :
    attributes (gap ++ (name ++ '=' :: mark :: (value ++ closing :: rest))) =
      ⟨name, mark :: value ++ [closing]⟩ :: attributes rest := by
  have read := attribute?_append named kind free rest
  obtain ⟨c, tail, hn⟩ := List.exists_cons_of_ne_nil named.ne_nil
  have split : name ++ '=' :: mark :: (value ++ closing :: rest) =
      c :: (tail ++ '=' :: mark :: value ++ [closing]) ++ rest := by simp [hn]
  rw [split] at read ⊢
  rw [attributes_spaces spaces, attributes_take read]

theorem attributes_append (entry : Assignment) (rest : List Char) :
    attributes (entry.render ++ rest) = entry.toAttribute :: attributes rest := by
  have split : entry.render ++ rest =
      entry.gap ++ (entry.name ++ '=' :: '"' :: (entry.value ++ '"' :: rest)) := by
    simp [Assignment.render]
  rw [split]
  exact attributes_gap entry.spaces entry.named rfl entry.quotable.quote rest

theorem Head.attributes_eq (head : Head) :
    attributes head.render = head.entries.map Assignment.toAttribute := by
  obtain ⟨entries, gap, spaces⟩ := head
  rw [render]
  induction entries with
  | nil =>
    have none := attributes_spaces spaces []
    rw [List.append_nil] at none
    exact none
  | cons entry entries ih =>
    rw [List.flatMap_cons, List.append_assoc, attributes_append, ih, List.map_cons]

/-! ## Splitting off the root -/

section RootTag

variable {tail : List Char}

theorem rootTag?_append (free : '>' ∉ tail) (parted : ∀ c ∈ tail.head?, isWord c = false)
    (rest : List Char) :
    rootTag? (rootStart ++ tail ++ '>' :: rest) = some (tail, rest) := by
  have word : ((tail ++ '>' :: rest).head?.map isWord).getD false = false := by
    cases tail with
    | nil => rfl
    | cons c tail => exact parted c rfl
  have split :
      rootStart ++ tail ++ '>' :: rest = '<' :: ("svg".toList ++ (tail ++ '>' :: rest)) := by
    simp [rootStart]
  have start : "<svg".toList.isPrefixOf ('<' :: ("svg".toList ++ (tail ++ '>' :: rest))) = true :=
    rfl
  have body : ('<' :: ("svg".toList ++ (tail ++ '>' :: rest))).drop 4 = tail ++ '>' :: rest := rfl
  rw [split, Markup.rootTag?, start, body, word]
  simp [takeWhile_ne_append free, dropWhile_ne_append free]

theorem IsTagTail.rootTag? (ht : IsTagTail tail) (rest : List Char) :
    rootTag? (rootStart ++ tail ++ '>' :: rest) = some (tail, rest) := by
  refine rootTag?_append (fun hm => (ht.free _ hm).2 rfl) (fun c hc => ?_) rest
  have parted := ht.parted c hc
  simp only [continuesTagName, Bool.or_eq_false_iff] at parted
  exact parted.1.1.1

end RootTag

theorem dropRootEnd_append (text : List Char) : dropRootEnd (text ++ rootEnd) = text := by
  have trimmed : trimEnd (text ++ rootEnd) = text ++ rootEnd := by
    have split : text ++ rootEnd = (text ++ "</svg".toList) ++ '>' :: [] := by simp [rootEnd]
    rw [split]
    exact rdropWhile_append_cons (by decide) _ []
  have ends : "</svg>".toList.isSuffixOf (text ++ rootEnd) = true :=
    List.isSuffixOf_iff_suffix.mpr ⟨text, rfl⟩
  have length : (text ++ rootEnd).length - 6 = text.length := by simp [rootEnd]
  rw [dropRootEnd, trimmed, if_pos ends, length, List.take_left]

theorem splitRoot_of_rootTag? {tail inner : List Char}
    (h : rootTag? text = some (tail, inner ++ rootEnd))
    (waits : tail.getLast? ≠ some '/') : splitRoot text = ⟨attributes tail, Text.trim inner⟩ := by
  have open_ : (tail.getLast? == some '/') = false := beq_false_of_ne waits
  rw [splitRoot, h]
  simp only [open_, Bool.false_eq_true, if_false, dropRootEnd_append]

theorem splitRoot_content (head : Head) (inner : List Char) :
    splitRoot (rootStart ++ head.render ++ '>' :: (inner ++ rootEnd)) =
      ⟨head.entries.map Assignment.toAttribute, Text.trim inner⟩ := by
  rw [splitRoot_of_rootTag? (head.isTagTail.rootTag? _) head.isOpenTail.waits, head.attributes_eq]

theorem splitRoot_slash (head : Head) :
    splitRoot (rootStart ++ (head.render ++ ['/']) ++ ['>']) =
      ⟨head.entries.map Assignment.toAttribute, []⟩ := by
  rw [splitRoot, (head.isTagTail.append isTagTail_slash).rootTag?]
  simp [head.attributes_eq]

/-- The attributes of a root are renamed in its tag and inside it. -/
theorem toJsxNames_rooted (head : Head) (inner : List Char) : ∃ image : Head,
    toJsxNames head.render = image.render ∧
      toJsxNames (rootStart ++ head.render ++ '>' :: (inner ++ rootEnd)) =
        rootStart ++ image.render ++ '>' :: (toJsxNames inner ++ rootEnd) := by
  obtain ⟨image, mapped⟩ := head.mapNames keepsNames_jsx fun _ => starts_imageOf
  have renamed : mapNames (imageOf jsxPairs) head.render = image.render := by
    simpa using mapped []
  have closed : mapNames (imageOf jsxPairs) (inner ++ rootEnd) =
      mapNames (imageOf jsxPairs) inner ++ rootEnd := by
    have kept := mapNames_closing (imageOf jsxPairs) isTagName_rootName []
    rw [mapNames_nil, List.append_nil] at kept
    have bracket : rootEnd = '<' :: "/svg>".toList := rfl
    rw [bracket, mapNames_append_bar _ isBar_lt, ← mapNames_cons _ isBar_lt.parts]
    exact congrArg _ kept
  have opened :=
    mapNames_opening (imageOf jsxPairs) isTagName_rootName head.isTagTail (inner ++ rootEnd)
  rw [renamed, closed, ← List.append_cons, ← List.append_cons] at opened
  refine ⟨image, by rw [toJsxNames_eq]; exact renamed, ?_⟩
  rw [toJsxNames_eq, toJsxNames_eq]
  exact opened

/-! ## Documents in normal form -/

namespace Document

theorem render_slash (head : Head) :
    render ⟨head, none⟩ = rootStart ++ (head.render ++ ['/']) ++ ['>'] := by
  simp [render, forest, Forest.render, rootName, rootStart]

theorem render_content (head : Head) (children : Forest) :
    render ⟨head, some children⟩ =
      rootStart ++ head.render ++ '>' :: (children.render ++ rootEnd) := by
  simp [render, forest, Forest.render, rootName, rootStart, rootEnd]

theorem rootStart_prefix (document : Document) : rootStart <+: document.render := by
  obtain ⟨head, _ | children⟩ := document
  · rw [render_slash, List.append_assoc]
    exact List.prefix_append _ _
  · rw [render_content, List.append_assoc]
    exact List.prefix_append _ _

theorem getLast?_render (document : Document) : document.render.getLast? = some '>' := by
  obtain ⟨head, _ | children⟩ := document
  · rw [render_slash, List.getLast?_append]
    rfl
  · have last : (children.render ++ rootEnd).getLast? = some '>' := by
      rw [List.getLast?_append]
      rfl
    rw [render_content, List.getLast?_append, List.getLast?_cons, last]
    rfl

/-- Nothing is taken out of a document and nothing is put around it. -/
theorem normalForm_eq (document : Document) :
    normalForm document.render = toJsxNames document.render := by
  have woven : Woven true document.render document.forest.marks := document.forest.woven (.inl rfl)
  have last : ∀ c ∈ document.render.getLast?, isSpace c = false := by
    rw [document.getLast?_render]
    decide
  exact normalForm_eq_toJsxNames woven.not_hasBlock
    (trim_of_rootStart document.rootStart_prefix last)
    document.rootStart_prefix

theorem toJsxNames_slash (head : Head) : ∃ image : Head,
    toJsxNames (render ⟨head, none⟩) = rootStart ++ (image.render ++ ['/']) ++ ['>'] := by
  obtain ⟨image, mapped⟩ := head.mapNames keepsNames_jsx fun _ => starts_imageOf
  have opened := mapNames_opening (imageOf jsxPairs) isTagName_rootName
    (head.isTagTail.append isTagTail_slash) []
  have slash : mapNames (imageOf jsxPairs) ['/'] = ['/'] := by
    rw [mapNames_cons _ (by decide), mapNames_nil]
  rw [mapped, slash, mapNames_nil, List.append_nil, List.append_nil] at opened
  exact ⟨image, by rw [render_slash, toJsxNames_eq]; exact opened⟩

theorem toJsxNames_content (head : Head) (children : Forest) : ∃ image : Head,
    toJsxNames (render ⟨head, some children⟩) =
      rootStart ++ image.render ++ '>' :: (toJsxNames children.render ++ rootEnd) := by
  obtain ⟨image, -, whole⟩ := toJsxNames_rooted head children.render
  exact ⟨image, by rw [render_content]; exact whole⟩

end Document

/-- What is known of the root that is split off a document in normal form. -/
structure IsDrawn (jsx : Bool) (root : Root) (m : List Mark) : Prop where
  assigned : ∀ entry ∈ root.attributes, ∃ source : Assignment, source.toAttribute = entry
  clean : ∀ entry ∈ root.attributes, Clean entry.render
  woven : Woven jsx root.inner m
  clean_inner : Clean root.inner
  balanced : Balanced m

theorem Head.clean_attribute (head : Head) (h : Clean (x ++ head.render ++ y)) :
    ∀ entry ∈ head.entries.map Assignment.toAttribute, Clean entry.render := by
  intro entry he
  obtain ⟨source, hs, rfl⟩ := List.mem_map.mp he
  obtain ⟨front, back, hf⟩ := List.append_of_mem hs
  have split : x ++ head.render ++ y = x ++ front.flatMap Assignment.render ++ source.gap ++
      (source.name ++ '=' :: '"' :: source.value ++ ['"'] ++
        (back.flatMap Assignment.render ++ head.gap ++ y)) := by
    simp [render, hf, Assignment.render]
  have body : Clean (source.name ++ '=' :: '"' :: source.value ++ ['"']) := by
    refine Clean.left (Clean.right (split ▸ h) fun c hc => ?_)
    rw [List.getLast?_append_of_ne_nil _ source.gap_ne_nil] at hc
    exact continuesTagName_of_continuesName
      (continuesTagName_of_isSpace (source.spaces c (List.mem_of_getLast? hc)))
  have space : Clean [' '] := by decide
  simpa [Attribute.render, Assignment.toAttribute] using space.append body (.inl (by decide))

theorem Assignment.isOpenTail_toAttribute (source : Assignment) :
    IsOpenTail source.toAttribute.render := by
  have single := isOpenTail ⟨[' '], source.name, source.value, by simp, by decide, source.named,
    source.quotable⟩
  simpa [render, toAttribute, Attribute.render] using single

theorem Assignment.of_mem_map {entries : List Assignment} :
    ∀ entry ∈ entries.map toAttribute, ∃ source : Assignment, source.toAttribute = entry := by
  intro entry he
  obtain ⟨source, -, rfl⟩ := List.mem_map.mp he
  exact ⟨source, rfl⟩

theorem Document.isDrawn (document : Document)
    (closed : jsx = true ∨ ∀ name ∈ document.names, isVoid name = false) :
    ∃ m, IsDrawn jsx (splitRoot (normalForm document.render)) m := by
  have clean := clean_toJsxNames document.render
  rw [document.normalForm_eq]
  obtain ⟨head, _ | children⟩ := document
  · obtain ⟨image, whole⟩ := toJsxNames_slash head
    rw [whole, ← List.append_assoc, List.append_assoc] at clean
    rw [whole, splitRoot_slash]
    exact ⟨[], Assignment.of_mem_map, image.clean_attribute clean, .text (by simp), rfl, .nil⟩
  · obtain ⟨image, whole⟩ := toJsxNames_content head children
    rw [whole] at clean
    rw [whole, splitRoot_content]
    have assigned := image.clean_attribute clean
    have woven : Woven jsx children.render children.marks := by
      refine children.woven (closed.imp_right fun h name hn => h name ?_)
      simp [names, forest, Forest.names, hn]
    have renamed : Woven jsx (toJsxNames children.render) children.marks := by
      rw [toJsxNames_eq]
      exact woven.mapNames keepsNames_jsx
    have inner := renamed.trim
    have clean_inner := (clean_toJsxNames children.render).trim
    generalize trim (toJsxNames children.render) = kept at inner clean_inner ⊢
    exact ⟨children.marks, Assignment.of_mem_map, assigned, inner, clean_inner, children.balanced⟩

theorem IsDrawn.value {root : Root} {m : List Mark} {name : String} {value : List Char}
    (h : IsDrawn jsx root m) (hv : root.value? name = some value) : '<' ∉ value ∧ Clean value := by
  obtain ⟨entry, found, rfl⟩ := Option.map_eq_some_iff.mp hv
  have he := List.mem_of_find?_eq_some found
  have clean := h.clean entry he
  obtain ⟨source, rfl⟩ := h.assigned entry he
  have plain : source.toAttribute.plainValue = source.value := by
    simp [Attribute.plainValue, Assignment.toAttribute]
  have split : source.toAttribute.render =
      ' ' :: source.name ++ "=\"".toList ++ (source.value ++ ['"']) := by
    simp [Attribute.render, Assignment.toAttribute]
  rw [plain]
  refine ⟨source.quotable.opening, Clean.left (Clean.right (split ▸ clean) ?_)⟩
  intro c hc
  rw [List.getLast?_append_of_ne_nil _ (by decide)] at hc
  cases hc
  decide

end Handoff.Markup
