import Handoff.Proofs.Markup.Dialect
import Handoff.Proofs.Markup.Mixed
import Handoff.Proofs.Markup.Renaming

/-! # What renaming keeps

Markup is read one character after the other for the names of its tags, the values of its attributes
and the texts between its tags. Renaming goes over values and texts as it goes over anything else,
so that they are kept if and only if no old name of an attribute stands in them before an equals
sign.
-/

namespace Handoff.Markup

open Text

variable {f : List Char → List Char} {x rest : List Char}

/-! ## Reading markup -/

/-- What is read of markup. The names of attributes are passed over. -/
inductive Item
  | text (content : List Char)
  | opening (name : List Char)
  | value (content : List Char)
  | closing (name : List Char)
deriving DecidableEq

/-- Where a reader of markup is, and what it has read of the item there. -/
inductive Reading
  | text (read : List Char)
  | bracket
  | opening (read : List Char)
  | inside
  | value (quote : Char) (read : List Char)
  | closing (read : List Char)

/-- Where a reader is behind a character that stands in a start tag, and not in a value. -/
def Reading.behind (c : Char) : Reading :=
  if c = '>' then .text [] else if c = '"' ∨ c = '\'' then .value c [] else .inside

def readItems : Reading → List Char → List Item
  | .text read, [] => [.text read]
  | _, [] => []
  | .text read, c :: rest =>
    if c = '<' then .text read :: readItems .bracket rest else readItems (.text (read ++ [c])) rest
  | .bracket, c :: rest =>
    if c = '/' then readItems (.closing []) rest else readItems (.opening [c]) rest
  | .opening read, c :: rest =>
    if continuesTagName c then readItems (.opening (read ++ [c])) rest
    else .opening read :: readItems (.behind c) rest
  | .inside, c :: rest => readItems (.behind c) rest
  | .value quote read, c :: rest =>
    if c = quote then .value read :: readItems .inside rest
    else readItems (.value quote (read ++ [c])) rest
  | .closing read, c :: rest =>
    if c = '>' then .closing read :: readItems (.text []) rest
    else readItems (.closing (read ++ [c])) rest

def itemsOf (text : List Char) : List Item := readItems (.text []) text

theorem readItems_run (reading : List Char → Reading) (read rest : List Char)
    (step : ∀ c ∈ x, ∀ read rest,
      readItems (reading read) (c :: rest) = readItems (reading (read ++ [c])) rest) :
    readItems (reading read) (x ++ rest) = readItems (reading (read ++ x)) rest := by
  induction x generalizing read with
  | nil => rw [List.nil_append, List.append_nil]
  | cons c x ih =>
    obtain ⟨first, others⟩ := List.forall_mem_cons.mp step
    rw [List.cons_append, first, ih _ others, List.append_assoc, List.singleton_append]

theorem readItems_text (h : '<' ∉ x) (read rest : List Char) :
    readItems (.text read) (x ++ rest) = readItems (.text (read ++ x)) rest :=
  readItems_run .text read rest fun _ hc _ _ => if_neg (ne_of_mem_of_not_mem hc h)

theorem readItems_opening (h : ∀ c ∈ x, continuesTagName c = true) (read rest : List Char) :
    readItems (.opening read) (x ++ rest) = readItems (.opening (read ++ x)) rest :=
  readItems_run .opening read rest fun c hc _ _ => if_pos (h c hc)

theorem readItems_inside (h : ∀ c ∈ x, c ≠ '>' ∧ c ≠ '"' ∧ c ≠ '\'') (rest : List Char) :
    readItems .inside (x ++ rest) = readItems .inside rest := by
  refine readItems_run (fun _ => .inside) [] rest fun c hc _ _ => ?_
  obtain ⟨bracket, quote, apostrophe⟩ := h c hc
  simp [readItems, Reading.behind, bracket, quote, apostrophe]

theorem readItems_value {quote : Char} (h : quote ∉ x) (rest : List Char) :
    readItems (.value quote []) (x ++ quote :: rest) = .value x :: readItems .inside rest := by
  have run := readItems_run (.value quote) [] (quote :: rest)
    fun c (hc : c ∈ x) _ _ => if_neg (ne_of_mem_of_not_mem hc h)
  rw [run, readItems, if_pos rfl, List.nil_append]

theorem readItems_closing (h : '>' ∉ x) (rest : List Char) :
    readItems (.closing []) (x ++ '>' :: rest) = .closing x :: readItems (.text []) rest := by
  have run := readItems_run .closing [] ('>' :: rest)
    fun c (hc : c ∈ x) _ _ => if_neg (ne_of_mem_of_not_mem hc h)
  rw [run, readItems, if_pos rfl, List.nil_append]

/-! ## The items of mixed content -/

def Item.map (f : List Char → List Char) : Item → Item
  | .text content => .text (f content)
  | .opening name => .opening name
  | .value content => .value (f content)
  | .closing name => .closing name

def StartTag.items (start : StartTag) : List Item :=
  .text start.lead :: .opening start.name :: start.attributes.map fun entry => .value entry.value

def Mixed.items : Mixed → List Item
  | .text content _ => [.text content]
  | .void start _ rest => start.items ++ rest.items
  | .empty start rest => start.items ++ rest.items
  | .element start children rest =>
    start.items ++ (children.items ++ .closing start.name :: rest.items)

theorem isBar_quote {quote : Char} (h : quote = '"' ∨ quote = '\'') : IsBar quote := by
  rcases h with rfl | rfl <;> exact ⟨by decide, by decide, by decide⟩

section Attribute

variable (entry : QuotedAttribute)

theorem mapNames_attribute (f : List Char → List Char) (rest : List Char) :
    mapNames f (entry.render ++ rest) =
      entry.gap ++ mapNames f (entry.name ++ ['=']) ++
        entry.quote :: (mapNames f entry.value ++ entry.quote :: mapNames f rest) := by
  have bar := isBar_quote entry.quotes
  have parted : ∀ c ∈ entry.gap, continuesName c = false := fun c hc =>
    continuesName_of_isSpace (entry.spaces c hc)
  calc mapNames f (entry.render ++ rest)
      = mapNames f (entry.gap ++ (entry.name ++
          '=' :: ([] ++ entry.quote :: (entry.value ++ entry.quote :: rest)))) := by
        simp [QuotedAttribute.render]
    _ = entry.gap ++ (mapNames f (entry.name ++ ['=']) ++
          ([] ++ entry.quote :: (mapNames f entry.value ++ entry.quote :: mapNames f rest))) := by
        rw [mapNames_append_parted f parted, mapNames_append_equals, mapNames_append_bar f bar,
          mapNames_append_bar f bar, mapNames_nil]
    _ = _ := by simp

theorem mem_before_value (hf : KeepsNames f) {c : Char}
    (hc : c ∈ entry.gap ++ mapNames f (entry.name ++ ['='])) : c ≠ '>' ∧ c ≠ '"' ∧ c ≠ '\'' := by
  have absent (d : Char) (mark : isSpace d = false ∧ continuesName d = false)
      (other : namesAttribute d = false ∧ d ≠ '=') : c ≠ d := by
    rintro rfl
    rcases List.mem_append.mp hc with hc | hc
    · exact absurd (entry.spaces c hc) (ne_true_of_eq_false mark.1)
    · refine not_mem_mapNames hf mark.2 ?_ hc
      refine List.not_mem_append (fun hm => ?_) (by simpa using other.2)
      exact absurd (entry.named c hm) (ne_true_of_eq_false other.1)
  exact ⟨absent '>' (by decide) (by decide), absent '"' (by decide) (by decide),
    absent '\'' (by decide) (by decide)⟩

theorem readItems_attribute (hf : KeepsNames f) (rest : List Char) :
    readItems .inside (mapNames f (entry.render ++ rest)) =
      .value (mapNames f entry.value) :: readItems .inside (mapNames f rest) := by
  have unquoted : entry.quote ∉ mapNames f entry.value :=
    not_mem_mapNames hf (isBar_quote entry.quotes).parts entry.unquoted
  have quoted : Reading.behind entry.quote = .value entry.quote [] := by
    rcases entry.quotes with h | h <;> rw [h] <;> rfl
  rw [mapNames_attribute, readItems_inside fun c hc => mem_before_value entry hf hc,
    readItems, quoted, readItems_value unquoted]

end Attribute

/-- What stands in a start tag behind the name is read for the values of the attributes. -/
theorem readItems_tail (hf : KeepsNames f) (start : StartTag) (slash : List Char)
    (h : ∀ c ∈ slash, c = '/') (rest : List Char) :
    readItems .inside (mapNames f (start.tail ++ slash ++ '>' :: rest)) =
      start.attributes.map (fun entry => .value (mapNames f entry.value)) ++
        readItems (.text []) (mapNames f rest) := by
  rw [StartTag.tail]
  induction start.attributes with
  | nil =>
    have marks : ∀ c ∈ start.gap ++ slash, isSpace c = true ∨ c = '/' :=
      List.forall_mem_append.mpr ⟨fun c hc => .inl (start.spaces c hc), fun c hc => .inr (h c hc)⟩
    have parted : ∀ c ∈ start.gap ++ slash, continuesName c = false := by
      intro c hc
      rcases marks c hc with space | rfl
      · exact continuesName_of_isSpace space
      · decide
    have passed : ∀ c ∈ start.gap ++ slash, c ≠ '>' ∧ c ≠ '"' ∧ c ≠ '\'' := by
      intro c hc
      rcases marks c hc with space | rfl
      · refine ⟨?_, ?_, ?_⟩ <;> rintro rfl <;> exact absurd space (by decide)
      · decide
    rw [List.flatMap_nil, List.nil_append, mapNames_append_parted f parted,
      mapNames_cons f isBar_gt.parts, readItems_inside passed]
    rfl
  | cons entry entries ih =>
    have split :
        (entry :: entries).flatMap QuotedAttribute.render ++ start.gap ++ slash ++ '>' :: rest =
        entry.render ++
          (entries.flatMap QuotedAttribute.render ++ start.gap ++ slash ++ '>' :: rest) := by simp
    rw [split, readItems_attribute entry hf, ih]
    rfl

theorem readItems_bracket {name : List Char} (hn : IsTagName name) {d : Char}
    (ends : continuesTagName d = false) (rest : List Char) :
    readItems .bracket (name ++ d :: rest) = .opening name :: readItems .inside (d :: rest) := by
  obtain ⟨c, more, rfl⟩ := List.exists_cons_of_ne_nil hn.ne_nil
  have letter : c.isAlpha = true := hn.first c (by simp)
  have other : c ≠ '/' := by
    rintro rfl
    exact absurd letter (by decide)
  have continues : ∀ e ∈ more, continuesTagName e = true := fun e he =>
    hn.continues e (by simp [he])
  rw [List.cons_append, readItems, if_neg other, readItems_opening continues, readItems, ends,
    if_neg Bool.false_ne_true]
  rfl

theorem readItems_start (hf : KeepsNames f) (start : StartTag) (slash : List Char)
    (h : ∀ c ∈ slash, c = '/') (tail : IsTagTail (start.tail ++ slash)) (rest : List Char) :
    readItems (.text []) (mapNames f (start.lead ++
        ('<' :: start.name ++ (start.tail ++ slash) ++ ['>']) ++ rest)) =
      start.items.map (Item.map (mapNames f)) ++ readItems (.text []) (mapNames f rest) := by
  obtain ⟨d, behind, hd⟩ : ∃ d behind, start.tail ++ slash ++ '>' :: rest = d :: behind :=
    List.exists_cons_of_ne_nil (by simp)
  have ends : continuesTagName d = false := by
    have head : d ∈ (start.tail ++ slash ++ '>' :: rest).head? := by rw [hd]; rfl
    rw [List.head?_append, Option.mem_def, Option.or_eq_some_iff] at head
    rcases head with head | ⟨-, head⟩
    · exact tail.parted d head
    · obtain rfl := Option.some.inj head
      decide
  have parts : continuesName d = false := continuesTagName_of_continuesName ends
  have unassigned : isAssigned (d :: behind) = false := by
    rw [← hd, isAssigned_append_bar isBar_gt]
    exact tail.unassigned
  have renamed :
      mapNames f (start.lead ++ ('<' :: start.name ++ (start.tail ++ slash) ++ ['>']) ++ rest) =
      mapNames f start.lead ++ '<' :: (start.name ++ mapNames f (d :: behind)) := by
    rw [← mapNames_append_of_not_mem f (start.named.not_mem (by decide)) unassigned
      (parted_cons parts), ← mapNames_append_bar f isBar_lt, ← hd]
    simp
  have unopened : '<' ∉ mapNames f start.lead := not_mem_mapNames hf isBar_lt.parts start.unopened
  have inside := readItems_tail hf start slash h rest
  rw [hd, mapNames_cons f parts] at inside
  rw [renamed, readItems_text unopened, readItems, if_pos rfl, mapNames_cons f parts,
    readItems_bracket start.named ends, inside]
  simp [StartTag.items, Item.map]

theorem readItems_closingTag {name : List Char} (hn : IsTagName name) (rest : List Char) :
    readItems (.text []) (mapNames f ("</".toList ++ name ++ ['>'] ++ rest)) =
      .text [] :: .closing name :: readItems (.text []) (mapNames f rest) := by
  have split : "</".toList ++ name ++ ['>'] ++ mapNames f rest =
      '<' :: '/' :: (name ++ '>' :: mapNames f rest) := by simp
  have unclosed : '>' ∉ name := hn.not_mem (by decide)
  rw [mapNames_closing f hn, split, readItems, if_pos rfl, readItems, if_pos rfl,
    readItems_closing unclosed]

/-- Text up to the end or to the next tag is an item of its own. -/
theorem readItems_lead (hf : KeepsNames f) {content : List Char} (unopened : '<' ∉ content)
    (behind : ∀ c ∈ rest.head?, c = '<') :
    readItems (.text []) (mapNames f (content ++ rest)) =
      .text (mapNames f content) :: (readItems (.text []) (mapNames f rest)).tail := by
  rw [mapNames_lead f content behind, readItems_text (not_mem_mapNames hf isBar_lt.parts unopened)]
  cases rest with
  | nil => simp [readItems]
  | cons c rest =>
    obtain rfl := behind c rfl
    simp [mapNames_cons f isBar_lt.parts, readItems]

/-- Mixed content ends in a text. What is read behind it begins with a text too, and this is a part
of the same item. -/
theorem readItems_mixed (hf : KeepsNames f) (mixed : Mixed) (behind : ∀ c ∈ rest.head?, c = '<') :
    readItems (.text []) (mapNames f (mixed.render ++ rest)) =
      mixed.items.map (Item.map (mapNames f)) ++ (readItems (.text []) (mapNames f rest)).tail := by
  induction mixed generalizing rest with
  | text content unopened => exact readItems_lead hf unopened behind
  | void start _ mixed ih =>
    have first := readItems_start hf start [] (by simp)
      (by simpa using start.isOpenTail.toIsTagTail) (mixed.render ++ rest)
    rw [List.append_nil] at first
    rw [Mixed.render, List.append_assoc, first, ih behind, Mixed.items, List.map_append,
      List.append_assoc]
  | empty start mixed ih =>
    have first := readItems_start hf start ['/'] (by simp)
      (start.isOpenTail.toIsTagTail.append isTagTail_slash) (mixed.render ++ rest)
    rw [Mixed.render, List.append_assoc, first, ih behind, Mixed.items, List.map_append,
      List.append_assoc]
  | element start children mixed inside after =>
    obtain ⟨closing, hc⟩ :
        ∃ closing, closing = "</".toList ++ start.name ++ ['>'] ++ (mixed.render ++ rest) :=
      ⟨_, rfl⟩
    have first := readItems_start hf start [] (by simp)
      (by simpa using start.isOpenTail.toIsTagTail) (children.render ++ closing)
    rw [List.append_nil] at first
    have split : (Mixed.element start children mixed).render ++ rest =
        start.lead ++ ('<' :: start.name ++ start.tail ++ ['>']) ++
          (children.render ++ closing) := by
      simp [Mixed.render, hc]
    rw [split, first, inside (by simp [hc]), hc, readItems_closingTag start.named, List.tail_cons,
      after behind, Mixed.items]
    simp [Item.map]

theorem itemsOf_mapNames (hf : KeepsNames f) (mixed : Mixed) :
    itemsOf (mapNames f mixed.render) = mixed.items.map (Item.map (mapNames f)) := by
  have whole : readItems (.text []) (mapNames f (mixed.render ++ [])) = _ :=
    readItems_mixed hf mixed (by simp)
  rw [List.append_nil, mapNames_nil] at whole
  simpa [itemsOf, readItems] using whole

/-! ## Drawings -/

/-- A drawing in mixed content: its root and, unless the root is written with a slash, what stands
in it. -/
structure MixedDocument where
  attributes : List QuotedAttribute
  gap : List Char
  spaces : ∀ c ∈ gap, isSpace c = true
  content : Option Mixed

namespace MixedDocument

variable (document : MixedDocument)

def root : StartTag where
  lead := []
  name := rootName
  attributes := document.attributes
  gap := document.gap
  unopened := List.not_mem_nil
  named := isTagName_rootName
  spaces := document.spaces

def mixed : Mixed :=
  match document.content with
  | none => .empty document.root (.text [] List.not_mem_nil)
  | some children => .element document.root children (.text [] List.not_mem_nil)

def render : List Char := document.mixed.render

def items : List Item := document.mixed.items

end MixedDocument

theorem Mixed.woven (mixed : Mixed) : ∃ m, Woven true mixed.render m := by
  have opening (start : StartTag) {tail rest : List Char} {n : List Mark} (ht : IsTagTail tail)
      (hr : Woven true rest n) :
      ∃ m, Woven true (start.lead ++ ('<' :: start.name ++ tail ++ ['>']) ++ rest) m :=
    ⟨_, .tag start.unopened (.opening start.named ht) hr⟩
  induction mixed with
  | text content unopened => exact ⟨[], .text unopened⟩
  | void start _ rest ih =>
    obtain ⟨n, hn⟩ := ih
    exact opening start start.isOpenTail.toIsTagTail hn
  | empty start rest ih =>
    obtain ⟨n, hn⟩ := ih
    exact opening start (start.isOpenTail.toIsTagTail.append isTagTail_slash) hn
  | element start children rest inside after =>
    obtain ⟨m, hm⟩ := inside
    obtain ⟨n, hn⟩ := after
    have behind := hm.append ((IsTag.closing start.named).woven hn)
    obtain ⟨whole, woven⟩ := opening start start.isOpenTail.toIsTagTail behind
    exact ⟨whole, by simpa [render] using woven⟩

/-- Nothing is taken out of a drawing and nothing is put around it. -/
theorem MixedDocument.normalForm_eq (document : MixedDocument) :
    normalForm document.render = toJsxNames document.render := by
  obtain ⟨m, woven⟩ := document.mixed.woven
  obtain ⟨inner, whole⟩ : ∃ inner, document.render = rootStart ++ inner ++ ['>'] := by
    obtain ⟨attributes, gap, spaces, _ | children⟩ := document
    · refine ⟨(root ⟨attributes, gap, spaces, none⟩).tail ++ ['/'], ?_⟩
      simp [render, mixed, Mixed.render, root, rootName, rootStart]
    · refine ⟨(root ⟨attributes, gap, spaces, some children⟩).tail ++ ['>'] ++
        children.render ++ "</svg".toList, ?_⟩
      simp [render, mixed, Mixed.render, root, rootName, rootStart]
  have starts : rootStart <+: document.render := by
    rw [whole, List.append_assoc]
    exact List.prefix_append _ _
  refine normalForm_eq_toJsxNames woven.not_hasBlock (trim_of_rootStart starts ?_) starts
  rw [whole, List.getLast?_concat]
  decide

theorem toJsxNames_eq_self_iff {text : List Char} :
    toJsxNames text = text ↔ ∀ entry ∈ attributeNames, ¬ HasAttribute entry.plain.toList text := by
  constructor
  · intro same entry he
    rw [← same]
    exact not_hasAttribute_toJsxNames he text
  · intro absent
    rw [toJsxNames_eq]
    refine mapNames_eq_self fun name hn => imageOf_of_not_mem fun pair hp he => ?_
    obtain ⟨entry, hm, rfl⟩ := List.mem_map.mp hp
    obtain rfl := he
    exact absent entry hm (hasAttribute_of_mem_assignedNames hn)

def Item.content? : Item → Option (List Char)
  | .text content => some content
  | .value content => some content
  | .opening _ => none
  | .closing _ => none

theorem Item.map_eq_self_iff {f : List Char → List Char} {item : Item} :
    item.map f = item ↔ ∀ content ∈ item.content?, f content = content := by
  cases item <;> simp [Item.map, Item.content?]

/-- A drawing in normal form has the tags of the drawing. Its values and texts are those of the
drawing with their attributes renamed, so that they are kept if and only if no old name of an
attribute stands in them before an equals sign. -/
theorem items_normalize (document : MixedDocument) :
    itemsOf document.render = document.items ∧
      itemsOf (normalize (String.ofList document.render)).toList =
        document.items.map (Item.map toJsxNames) ∧
      (itemsOf (normalize (String.ofList document.render)).toList = document.items ↔
        ∀ item ∈ document.items, ∀ content ∈ item.content?, ∀ entry ∈ attributeNames,
          ¬ HasAttribute entry.plain.toList content) := by
  have written : itemsOf document.render = document.items := by
    have same (text : List Char) : mapNames id text = text := mapNames_eq_self fun _ _ => rfl
    have kept : Item.map (mapNames id) = id := by
      funext item
      exact Item.map_eq_self_iff.mpr fun content _ => same content
    have read := itemsOf_mapNames (f := id) (fun _ hn => hn) document.mixed
    rwa [same, kept, List.map_id] at read
  have renamed : itemsOf (normalize (String.ofList document.render)).toList =
      document.items.map (Item.map toJsxNames) := by
    have names : toJsxNames = mapNames (imageOf jsxPairs) := funext toJsxNames_eq
    rw [normalize, String.toList_ofList, String.toList_ofList, document.normalForm_eq, names]
    exact itemsOf_mapNames keepsNames_jsx document.mixed
  refine ⟨written, renamed, ?_⟩
  calc itemsOf (normalize (String.ofList document.render)).toList = document.items
      ↔ document.items.map (Item.map toJsxNames) = document.items.map id := by
        rw [renamed, List.map_id]
    _ ↔ ∀ item ∈ document.items, item.map toJsxNames = item := List.map_inj_left
    _ ↔ ∀ item ∈ document.items, ∀ content ∈ item.content?, ∀ entry ∈ attributeNames,
          ¬ HasAttribute entry.plain.toList content := by
      simp only [Item.map_eq_self_iff, toJsxNames_eq_self_iff]

/-- A text is rewritten that reads like an attribute. -/
theorem text_renamed_like_attribute :
    ∃ document : MixedDocument, document.render = "<svg><text>class=a</text></svg>".toList ∧
      normalize (String.ofList document.render) = "<svg><text>className=a</text></svg>" ∧
      itemsOf (normalize (String.ofList document.render)).toList ≠ itemsOf document.render := by
  let label : StartTag := ⟨[], "text".toList, [], [], by decide, by decide, by decide⟩
  obtain ⟨document, written⟩ : ∃ document : MixedDocument,
      document.render = "<svg><text>class=a</text></svg>".toList :=
    ⟨⟨[], [], by simp,
      some (.element label (.text "class=a".toList (by decide)) (.text [] (by decide)))⟩,
      by decide⟩
  have renamed : normalize (String.ofList document.render) =
      "<svg><text>className=a</text></svg>" := by
    have names : toJsxNames "<svg><text>class=a</text></svg>".toList =
        "<svg><text>className=a</text></svg>".toList := by decide +kernel
    rw [normalize, String.toList_ofList, document.normalForm_eq, written, names,
      String.ofList_toList]
  refine ⟨document, written, renamed, ?_⟩
  rw [renamed, written]
  decide +kernel

end Handoff.Markup
