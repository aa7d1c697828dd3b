import Handoff.Proofs.Markup.Root

/-! # The attributes of a written tag

A tag is read attribute by attribute: a name, an equals sign, and a value between its marks. The
reading takes names of any dialect, so it sees the bindings of all frameworks. What is read from a
tag that is written from attributes are these attributes, and renaming a tag renames the attributes
in it.
-/

namespace Handoff.Markup

open Text

variable {f : List Char → List Char} {entry : Attribute} {entries : List Attribute} {mark c : Char}
  {front name rest text value left : List Char} {root : Root}

/-! ## Reading a tag -/

def breaksTag (c : Char) : Bool := isSpace c || c == '>'

/-- Whether a character closes the value that a mark opens, given what follows it. There may be
braces inside a value in braces, so a brace closes one only where the tag goes on or ends behind
it. -/
def closesValue (mark c : Char) (rest : List Char) : Bool :=
  closingMark? mark == some c && (mark != '\x7b' || rest.head?.all breaksTag)

/-- A value from behind its first mark through its last, and what follows it. -/
def throughClosing? (mark : Char) : List Char → Option (List Char × List Char)
  | [] => none
  | c :: rest =>
    if closesValue mark c rest then some ([c], rest)
    else (throughClosing? mark rest).map fun (inner, left) => (c :: inner, left)

def entryAt? : List Char → Option (Attribute × List Char)
  | [] => none
  | c :: rest =>
    if namesAttribute c then
      match rest.dropWhile namesAttribute with
      | '=' :: mark :: after =>
        (throughClosing? mark after).map fun (value, left) =>
          (⟨c :: rest.takeWhile namesAttribute, mark :: value⟩, left)
      | _ => none
    else none

/-- What stands at the front of a text that is not empty: an attribute, if there is one, and how
many characters behind the first belong to it. A word that is no attribute is passed over. -/
def frontEntry (c : Char) (rest : List Char) : Option Attribute × Nat :=
  ((entryAt? (c :: rest)).map fun (entry, left) => (some entry, rest.length - left.length)).getD
    (none, (rest.takeWhile (!breaksTag ·)).length)

/-- The attributes in a text, given how many characters at the front belong to the last one. -/
def entriesFrom : Nat → List Char → List Attribute
  | _, [] => []
  | skip + 1, _ :: rest => entriesFrom skip rest
  | 0, c :: rest =>
    if breaksTag c then entriesFrom 0 rest
    else (frontEntry c rest).1.toList ++ entriesFrom (frontEntry c rest).2 rest

def tagEntries (tag : List Char) : List Attribute := entriesFrom 0 (tag.dropWhile (!breaksTag ·))

/-! ## Reading what is written -/

/-- The tag goes on with its next attribute, or ends. -/
def Breaks (rest : List Char) : Prop := ∀ c ∈ rest.head?, breaksTag c = true

theorem breaks_cons (h : breaksTag c = true) (rest : List Char) : Breaks (c :: rest) := by
  rintro d hd
  cases hd
  exact h

theorem renderAttributes_cons (entry : Attribute) (entries : List Attribute) :
    renderAttributes (entry :: entries) = entry.render ++ renderAttributes entries := rfl

theorem breaks_renderAttributes (entries : List Attribute) (h : Breaks rest) :
    Breaks (renderAttributes entries ++ rest) := by
  cases entries with
  | nil => exact h
  | cons entry entries => exact breaks_cons (by decide) _

theorem throughClosing?_append (free : ∀ c ∈ front, closingMark? mark ≠ some c) (text : List Char) :
    throughClosing? mark (front ++ text) =
      (throughClosing? mark text).map fun (inner, left) => (front ++ inner, left) := by
  induction front with
  | nil => simp
  | cons c front ih =>
    obtain ⟨first, others⟩ := List.forall_mem_cons.mp free
    have open_ : closesValue mark c (front ++ text) = false := by
      rw [closesValue, beq_false_of_ne first, Bool.false_and]
    rw [List.cons_append, throughClosing?, open_, if_neg Bool.false_ne_true, ih others,
      Option.map_map]
    rfl

theorem throughClosing?_closing (h : closingMark? mark = some c) (hr : Breaks rest) :
    throughClosing? mark (c :: rest) = some ([c], rest) := by
  have closes : closesValue mark c rest = true := by
    have stops : rest.head?.all breaksTag = true := Option.all_eq_true_iff_get _ _ |>.mpr fun hs =>
      hr _ (Option.get_mem hs)
    rw [closesValue, h, stops, Bool.or_true, beq_self_eq_true, Bool.true_and]
  rw [throughClosing?, if_pos closes]

structure Attribute.IsLegible (entry : Attribute) : Prop where
  ne_nil : entry.name ≠ []
  named : ∀ c ∈ entry.name, namesAttribute c = true
  valued : ∃ mark inner, entry.value = mark :: inner ∧
    ∀ rest, Breaks rest → throughClosing? mark (inner ++ rest) = some (inner, rest)

theorem Attribute.IsLegible.entryAt? (h : entry.IsLegible) (hr : Breaks rest) :
    Markup.entryAt? (entry.name ++ '=' :: entry.value ++ rest) = some (entry, rest) := by
  obtain ⟨name, value⟩ := entry
  obtain ⟨ne, named, mark, inner, rfl, read⟩ := h
  obtain ⟨c, name, rfl⟩ := List.exists_cons_of_ne_nil ne
  obtain ⟨first, others⟩ := List.forall_mem_cons.mp named
  have equals : namesAttribute '=' = false := by decide
  have taken (text : List Char) : (name ++ '=' :: text).takeWhile namesAttribute = name := by
    rw [List.takeWhile_append_of_pos others]
    simp [equals]
  have behind (text : List Char) :
      (name ++ '=' :: text).dropWhile namesAttribute = '=' :: text := by
    rw [List.dropWhile_append_of_pos others]
    simp [equals]
  simp only [List.cons_append, List.append_assoc, Markup.entryAt?, first, if_true, behind, taken,
    read rest hr, Option.map_some]

theorem breaksTag_of_namesAttribute (h : namesAttribute c = true) : breaksTag c = false := by
  simp only [namesAttribute, Bool.not_eq_true', Bool.or_eq_false_iff] at h
  refine Bool.or_eq_false_iff.mpr ⟨h.1, beq_false_of_ne ?_⟩
  rintro rfl
  exact absurd h.2 (by decide)

theorem entriesFrom_skip (taken rest : List Char) :
    entriesFrom taken.length (taken ++ rest) = entriesFrom 0 rest := by
  induction taken with
  | nil => rfl
  | cons c taken ih => exact ih

theorem entriesFrom_break (h : breaksTag c = true) (rest : List Char) :
    entriesFrom 0 (c :: rest) = entriesFrom 0 rest := by
  rw [entriesFrom, if_pos h]

theorem Attribute.IsLegible.entriesFrom_render (h : entry.IsLegible) (hr : Breaks rest) :
    entriesFrom 0 (entry.render ++ rest) = entry :: entriesFrom 0 rest := by
  obtain ⟨c, name, hn⟩ := List.exists_cons_of_ne_nil h.ne_nil
  have named : breaksTag c = false :=
    breaksTag_of_namesAttribute (h.named c (hn ▸ List.mem_cons_self))
  have space : breaksTag ' ' = true := by decide
  have split : entry.name ++ '=' :: entry.value ++ rest =
      c :: (name ++ '=' :: entry.value ++ rest) := by
    rw [hn]
    rfl
  have front : frontEntry c (name ++ '=' :: entry.value ++ rest) =
      (some entry, (name ++ '=' :: entry.value).length) := by
    rw [frontEntry, ← split, h.entryAt? hr, Option.map_some, Option.getD_some]
    simp only [List.length_append, Nat.add_sub_cancel]
  calc entriesFrom 0 (entry.render ++ rest)
      = entriesFrom 0 (c :: (name ++ '=' :: entry.value ++ rest)) := by
        rw [← split]
        exact entriesFrom_break space _
    _ = entry :: entriesFrom (name ++ '=' :: entry.value).length
      (name ++ '=' :: entry.value ++ rest) := by
        rw [entriesFrom, named, if_neg Bool.false_ne_true, front]
        rfl
    _ = entry :: entriesFrom 0 rest := by rw [entriesFrom_skip]

theorem entriesFrom_renderAttributes (h : ∀ entry ∈ entries, entry.IsLegible) (hr : Breaks rest) :
    entriesFrom 0 (renderAttributes entries ++ rest) = entries ++ entriesFrom 0 rest := by
  induction entries with
  | nil => rfl
  | cons entry entries ih =>
    obtain ⟨first, others⟩ := List.forall_mem_cons.mp h
    rw [renderAttributes_cons, List.append_assoc,
      first.entriesFrom_render (breaks_renderAttributes entries hr), ih others, List.cons_append]

/-! ## Values between marks -/

/-- An attribute whose value stands between two marks of a kind. -/
structure Attribute.IsMarked (entry : Attribute) : Prop where
  ne_nil : entry.name ≠ []
  named : ∀ c ∈ entry.name, namesAttribute c = true
  valued : ∃ mark closing inner, closingMark? mark = some closing ∧ closing ∉ inner ∧
    entry.value = mark :: inner ++ [closing]

theorem Attribute.IsMarked.isLegible (h : entry.IsMarked) : entry.IsLegible := by
  obtain ⟨ne, named, mark, closing, inner, kind, free, value⟩ := h
  refine ⟨ne, named, mark, inner ++ [closing], value, fun rest hr => ?_⟩
  have apart : ∀ c ∈ inner, closingMark? mark ≠ some c := by
    rintro c hc same
    cases kind.symm.trans same
    exact free hc
  rw [List.append_assoc, List.singleton_append, throughClosing?_append apart,
    throughClosing?_closing kind hr]
  rfl

theorem value?_marked (h : value? text = some (value, left)) :
    ∃ mark closing inner, closingMark? mark = some closing ∧ closing ∉ inner ∧
      value = mark :: inner ++ [closing] := by
  cases text with
  | nil => cases h
  | cons mark rest =>
    cases kind : closingMark? mark with
    | none => simp [value?, kind] at h
    | some closing =>
      refine ⟨mark, closing, rest.takeWhile (· != closing), kind, not_mem_takeWhile_ne closing rest,
        ?_⟩
      simp only [value?, kind] at h
      split at h
      · cases h
      · cases h
        rfl

theorem continuesAttribute_of_startsAttribute (h : startsAttribute c = true) :
    continuesAttribute c = true := by
  simp only [startsAttribute, Bool.or_eq_true, beq_iff_eq] at h
  rcases h with (letter | rfl) | rfl
  · have alphanumeric : c.isAlphanum = true := by simp [Char.isAlphanum, letter]
    simp [continuesAttribute, isWord_of_isAlphanum (toNat_lt_of_isAlphanum alphanumeric)
      alphanumeric]
  · decide
  · decide

theorem attribute?_marked (h : attribute? text = some (entry, left)) :
    entry.IsMarked ∧ ∀ c ∈ entry.name, continuesAttribute c = true := by
  cases text with
  | nil => cases h
  | cons c rest =>
    rw [attribute?] at h
    split at h
    case isTrue starts =>
      split at h
      case h_1 after _ =>
        obtain ⟨⟨value, behind⟩, read, same⟩ := Option.map_eq_some_iff.mp h
        cases same
        have continues : ∀ d ∈ c :: rest.takeWhile continuesAttribute,
            continuesAttribute d = true :=
          List.forall_mem_cons.mpr
            ⟨continuesAttribute_of_startsAttribute starts, fun d hd => List.mem_takeWhile_imp hd⟩
        refine ⟨⟨by simp, fun d hd => ?_, value?_marked read⟩, continues⟩
        exact namesAttribute_of_continuesAttribute (continues d hd)
      case h_2 => cases h
    case isFalse => cases h

/-- The attributes that are read from a root have their values between marks. -/
theorem marked_of_mem_attributesFrom (skip : Nat) (text : List Char) :
    ∀ entry ∈ attributesFrom skip text,
      entry.IsMarked ∧ ∀ c ∈ entry.name, continuesAttribute c = true := by
  induction text generalizing skip with
  | nil =>
    intro entry he
    cases skip <;> cases he
  | cons c rest ih =>
    cases skip with
    | succ skip => exact ih skip
    | zero =>
      rw [attributesFrom]
      split
      case h_1 entry left read => exact List.forall_mem_cons.mpr ⟨attribute?_marked read, ih _⟩
      case h_2 => exact ih 0

theorem splitRoot_marked (text : List Char) : ∀ entry ∈ (splitRoot text).attributes,
    entry.IsMarked ∧ ∀ c ∈ entry.name, continuesAttribute c = true := by
  unfold splitRoot
  split
  · simp
  · split
    · exact marked_of_mem_attributesFrom 0 _
    · exact marked_of_mem_attributesFrom 0 _

/-! ## Attributes in the plain dialect -/

def Attribute.toPlain (entry : Attribute) : Attribute :=
  ⟨(toPlainNames (entry.name ++ ['='])).dropLast, toPlainNames entry.value⟩

theorem barred_of_closingMark? {closing : Char} (h : closingMark? mark = some closing) :
    continuesName mark = false ∧ IsBar closing := by
  unfold closingMark? at h
  split at h
  case isTrue same =>
    rw [eq_of_beq same]
    cases h
    exact ⟨by decide, by decide, by decide, by decide⟩
  case isFalse =>
    split at h
    case isTrue same =>
      rw [eq_of_beq same]
      cases h
      exact ⟨by decide, by decide, by decide, by decide⟩
    case isFalse =>
      split at h
      case isTrue same =>
        rw [eq_of_beq same]
        cases h
        exact ⟨by decide, by decide, by decide, by decide⟩
      case isFalse => cases h

theorem Attribute.IsMarked.ends (h : entry.IsMarked) : ∃ inner c, entry.value = inner ++ [c] ∧
    IsBar c := by
  obtain ⟨-, -, mark, closing, inner, kind, -, value⟩ := h
  exact ⟨mark :: inner, closing, value, (barred_of_closingMark? kind).2⟩

theorem toPlainNames_name (name : List Char) :
    (toPlainNames (name ++ ['='])).dropLast ++ ['='] = toPlainNames (name ++ ['=']) := by
  have last : (toPlainNames (name ++ ['='])).getLast? = some '=' := by
    rw [toPlainNames_eq, getLast?_mapNames, List.getLast?_append]
    rfl
  exact List.dropLast_append_getLast? _ last

theorem toPlainNames_render (h : ∃ inner c, entry.value = inner ++ [c] ∧ IsBar c)
    (rest : List Char) :
    toPlainNames (entry.render ++ rest) = entry.toPlain.render ++ toPlainNames rest := by
  obtain ⟨name, value⟩ := entry
  obtain ⟨inner, c, rfl, bar⟩ := h
  have space : continuesName ' ' = false := by decide
  have valued : toPlainNames (inner ++ [c] ++ rest) = toPlainNames (inner ++ [c]) ++
      toPlainNames rest := by
    simp only [toPlainNames_eq, List.append_assoc, List.singleton_append]
    rw [mapNames_append_bar _ bar, mapNames_append_bar _ bar, mapNames_nil, List.append_assoc]
    rfl
  calc toPlainNames (' ' :: name ++ '=' :: (inner ++ [c]) ++ rest)
      = ' ' :: toPlainNames (name ++ '=' :: (inner ++ [c] ++ rest)) := by
        simp only [toPlainNames_eq, List.cons_append, List.append_assoc]
        exact mapNames_cons _ space _
    _ = ' ' :: (toPlainNames (name ++ ['=']) ++
      (toPlainNames (inner ++ [c]) ++ toPlainNames rest)) := by
        rw [← valued]
        simp only [toPlainNames_eq]
        rw [mapNames_append_equals]
    _ = (Attribute.toPlain ⟨name, inner ++ [c]⟩).render ++ toPlainNames rest := by
        rw [← toPlainNames_name]
        simp [Attribute.toPlain, Attribute.render]

theorem toPlainNames_renderAttributes
    (h : ∀ entry ∈ entries, ∃ inner c, entry.value = inner ++ [c] ∧ IsBar c) (rest : List Char) :
    toPlainNames (renderAttributes entries ++ rest) =
      renderAttributes (entries.map Attribute.toPlain) ++ toPlainNames rest := by
  induction entries with
  | nil => simp only [renderAttributes, List.map_nil, List.flatMap_nil, List.nil_append]
  | cons entry entries ih =>
    obtain ⟨first, others⟩ := List.forall_mem_cons.mp h
    rw [List.map_cons, renderAttributes_cons, renderAttributes_cons, List.append_assoc,
      toPlainNames_render first, ih others, List.append_assoc]

theorem starts_imageOf_plain (h : Starts name) : Starts (imageOf plainPairs name) := by
  rcases imageOf_plainPairs_cases name with ⟨pair, hp, -, he⟩ | ⟨-, he⟩
  · have all : ∀ pair ∈ plainPairs, ∀ c ∈ pair.2.head?, startsAttribute c = true := by decide
    rw [he]
    exact all pair hp
  · rw [he]
    exact h

theorem Attribute.IsMarked.toPlain (h : entry.IsMarked)
    (continues : ∀ c ∈ entry.name, continuesAttribute c = true) : entry.toPlain.IsMarked := by
  obtain ⟨name, value⟩ := entry
  obtain ⟨ne, -, mark, closing, inner, kind, free, rfl⟩ := h
  obtain ⟨parts, bar⟩ := barred_of_closingMark? kind
  obtain ⟨image, continues', ne', -, mapped⟩ :=
    mapNames_before_equals keepsNames_plain (fun _ => starts_imageOf_plain) continues
  have renamed : (Attribute.toPlain ⟨name, mark :: inner ++ [closing]⟩).name = image := by
    have alone := mapped []
    rw [mapNames_nil] at alone
    rw [Attribute.toPlain, toPlainNames_eq, alone, List.dropLast_concat]
  refine ⟨renamed ▸ ne' ne, fun c hc => ?_, mark, closing, toPlainNames inner, kind, ?_, ?_⟩
  · exact namesAttribute_of_continuesAttribute (continues' c (renamed ▸ hc))
  · rw [toPlainNames_eq]
    exact not_mem_mapNames keepsNames_plain bar.parts free
  · simp only [Attribute.toPlain, toPlainNames_eq, List.cons_append]
    rw [mapNames_cons _ parts, mapNames_append_bar _ bar, mapNames_nil]

end Handoff.Markup
