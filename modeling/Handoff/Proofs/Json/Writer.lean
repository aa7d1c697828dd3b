import Handoff.Proofs.Json.Number

/-! # Written documents

Every value is written as one document in either layout: a character at a time inside texts, a part
at a time between brackets.
-/

namespace Handoff.Json

variable {layout : Layout} {parts : List String}

/-! ## Texts -/

/-- The hexadecimal digits of a number, at most so many as the number fits in. -/
theorem hexDigits_spec (k : Nat) {n : Nat} (fits : n < Nat.pow 16 (k + 1)) :
    (Nat.toDigits 16 n).length ≤ k + 1 ∧ ∀ d ∈ Nat.toDigits 16 n, (hexValue? d).isSome = true := by
  have digit : ∀ n < 16, (hexValue? (Nat.digitChar n)).isSome = true := by decide
  induction k generalizing n with
  | zero =>
    rw [Nat.toDigits_of_lt_base (by simpa using fits)]
    simpa using digit n (by simpa using fits)
  | succ k ih =>
    rcases Nat.lt_or_ge n 16 with small | large
    · rw [Nat.toDigits_of_lt_base small]
      simpa using digit n small
    · have shorter : n / 16 < Nat.pow 16 (k + 1) := Nat.div_lt_of_lt_mul (Nat.mul_comm _ 16 ▸ fits)
      obtain ⟨length, hex⟩ := ih shorter
      rw [Nat.toDigits_of_base_le (by decide) large]
      refine ⟨by simpa using length, List.forall_mem_append.mpr ⟨hex, ?_⟩⟩
      simpa using digit (n % 16) (Nat.mod_lt n (by decide))

theorem isPiece_unitEscape {n : Nat} (unit : n < 0x10000) : IsPiece (unitEscape n).toList := by
  obtain ⟨length, hex⟩ := hexDigits_spec 3 unit
  rw [unitEscape, String.toList_ofList]
  refine .unit _ ?_ (List.forall_mem_append.mpr ⟨fun d hd => ?_, hex⟩)
  · rw [List.length_append, List.length_replicate]
    omega
  · rw [List.eq_of_mem_replicate hd]
    decide

/-- A character is written by itself, with a backslash, or by one or two units. -/
theorem escapeChar_pieces (c : Char) :
    ∃ pieces : List (List Char), pieces ≠ [] ∧ (∀ piece ∈ pieces, IsPiece piece) ∧
      (escapeChar c).toList = pieces.flatten := by
  have one {text : String} (h : IsPiece text.toList) : ∃ pieces : List (List Char), pieces ≠ [] ∧
      (∀ piece ∈ pieces, IsPiece piece) ∧ text.toList = pieces.flatten :=
    ⟨[text.toList], by simp, by simpa using h, by simp⟩
  unfold escapeChar
  split_ifs with quote slash newline return_ tab back feed visible narrow
  · exact one (.short '"' rfl)
  · exact one (.short '\\' rfl)
  · exact one (.short 'n' rfl)
  · exact one (.short 'r' rfl)
  · exact one (.short 't' rfl)
  · exact one (.short 'b' rfl)
  · exact one (.short 'f' rfl)
  · simp only [Bool.and_eq_true, decide_eq_true_eq] at visible
    simp only [beq_iff_eq] at quote slash
    exact one (by simpa using .plain c visible.1 quote slash)
  · exact one (isPiece_unitEscape narrow)
  · -- the two halves of a surrogate pair
    have small : c.toNat < 0x110000 := by
      rcases c.valid with low | high
      · exact Nat.lt_trans low (by decide)
      · exact high.2
    refine ⟨[_, _], by simp, fun piece hp => ?_, by rw [String.toList_append, List.flatten_cons,
      List.flatten_cons, List.flatten_nil, List.append_nil]⟩
    rcases List.mem_pair.mp hp with rfl | rfl
    · exact isPiece_unitEscape (by omega)
    · exact isPiece_unitEscape (by omega)

theorem writeText_pieces (s : String) : ∃ pieces : List (List Char), s.length ≤ pieces.length ∧
    (∀ piece ∈ pieces, IsPiece piece) ∧ (writeText s).toList = '"' :: pieces.flatten ++ ['"'] := by
  have written (chars : List Char) (start : String) : ∃ pieces : List (List Char),
      chars.length ≤ pieces.length ∧ (∀ piece ∈ pieces, IsPiece piece) ∧
        (chars.foldl (fun written c => written ++ escapeChar c) start).toList =
          start.toList ++ pieces.flatten := by
    induction chars generalizing start with
    | nil => exact ⟨[], by simp, by simp, by simp⟩
    | cons c chars ih =>
      obtain ⟨first, ne, hf, same⟩ := escapeChar_pieces c
      obtain ⟨pieces, length, hp, rest⟩ := ih (start ++ escapeChar c)
      refine ⟨first ++ pieces, ?_, List.forall_mem_append.mpr ⟨hf, hp⟩, ?_⟩
      · have := List.length_pos_iff.mpr ne
        rw [List.length_cons, List.length_append]
        omega
      · rw [List.foldl_cons, rest, String.toList_append, same, List.flatten_append,
          List.append_assoc]
  obtain ⟨pieces, length, hp, same⟩ := written s.toList "\""
  exact ⟨pieces, String.length_toList ▸ length, hp,
    by rw [writeText, String.toList_append, same]; rfl⟩

theorem isText_writeText (s : String) : IsText (writeText s).toList := by
  obtain ⟨pieces, -, hp, same⟩ := writeText_pieces s
  exact ⟨pieces, hp, same⟩

theorem IsPiece.length_pos {piece : List Char} (h : IsPiece piece) : 0 < piece.length := by
  cases h <;> exact Nat.succ_pos _

theorem length_le_writeText (s : String) : s.length ≤ (writeText s).length := by
  obtain ⟨pieces, length, hp, same⟩ := writeText_pieces s
  have flat : pieces.length ≤ pieces.flatten.length := by
    clear length same
    induction pieces with
    | nil => simp
    | cons piece pieces ih =>
      obtain ⟨first, others⟩ := List.forall_mem_cons.mp hp
      have := first.length_pos
      have := ih others
      rw [List.flatten_cons, List.length_append, List.length_cons]
      omega
  rw [← String.length_toList (s := writeText s), same, List.length_append, List.length_cons]
  omega

/-! ## Parts between brackets -/

theorem isGap_lineBreak (layout : Layout) : IsGap layout.lineBreak.toList := by
  cases layout with
  | oneLine => simp [IsGap, Layout.lineBreak]
  | indented depth =>
    intro c hc
    simp only [Layout.lineBreak, String.toList_append, String.toList_ofList, List.mem_append] at hc
    rcases hc with first | space
    · obtain rfl : c = '\n' := by simpa using first
      decide
    · rw [List.eq_of_mem_replicate space]
      decide

theorem separator_spec (layout : Layout) :
    ∃ gap, IsGap gap ∧ layout.separator.toList = ',' :: gap := by
  cases layout with
  | oneLine => exact ⟨[' '], by simp [IsGap], rfl⟩
  | indented depth => exact ⟨_, isGap_lineBreak (.indented depth), by simp [Layout.separator]⟩

theorem series_intercalate (One Series : List Char → Prop)
    (last : ∀ {before part after}, IsGap before → One part → IsGap after →
      Series (before ++ part ++ after))
    (more : ∀ {before part series}, IsGap before → One part → Series series →
      Series (before ++ part ++ ',' :: series))
    (ne : parts ≠ []) (h : ∀ part ∈ parts, One part.toList) {before after : List Char}
    (hb : IsGap before) (ha : IsGap after) :
    Series (before ++ (layout.separator.intercalate parts).toList ++ after) := by
  obtain ⟨gap, hg, separator⟩ := separator_spec layout
  induction parts generalizing before with
  | nil => exact absurd rfl ne
  | cons part parts ih =>
    cases parts with
    | nil =>
      rw [String.intercalate_singleton]
      exact last hb (h part (by simp)) ha
    | cons next parts =>
      have rest := ih (by simp) (fun p hp => h p (by simp [hp])) hg
      rw [String.intercalate_cons_cons]
      simpa [separator] using more hb (h part (by simp)) rest

/-- A field as it is written: a text, a colon with a space behind it, and a value. -/
def IsField (text : List Char) : Prop :=
  ∃ key value, IsText key ∧ IsValue value ∧ text = key ++ ':' :: ' ' :: value

theorem toList_enclose_nil (layout : Layout) (opening closing : String) :
    (enclose layout opening closing []).toList = opening.toList ++ closing.toList := by
  simp [enclose]

theorem toList_enclose (ne : parts ≠ []) (layout : Layout) (opening closing : String) :
    (enclose layout opening closing parts).toList = opening.toList ++
      (layout.deeper.lineBreak.toList ++ (layout.deeper.separator.intercalate parts).toList ++
        layout.lineBreak.toList) ++ closing.toList := by
  rw [enclose, if_neg (by simpa using ne)]
  simp only [String.toList_append, List.append_assoc]

theorem prefix_enclose (parts : List String) (layout : Layout) (opening closing : String) :
    opening.toList <+: (enclose layout opening closing parts).toList := by
  rcases eq_or_ne parts [] with rfl | ne
  · rw [toList_enclose_nil]
    exact List.prefix_append _ _
  · rw [toList_enclose ne, List.append_assoc]
    exact List.prefix_append _ _

theorem isGap_nil : IsGap [] := fun _ hc => nomatch hc

theorem isValue_list (h : ∀ part ∈ parts, IsValue part.toList) :
    IsValue (enclose layout "[" "]" parts).toList := by
  rcases eq_or_ne parts [] with rfl | ne
  · exact toList_enclose_nil layout _ _ ▸ .emptyList isGap_nil
  · refine toList_enclose ne layout _ _ ▸ .list
      (series_intercalate IsValue IsItems IsItems.last ?_ ne h
      (isGap_lineBreak _) (isGap_lineBreak _))
    intro before part items hb hv hi
    simpa using IsItems.more hb hv isGap_nil hi

theorem isValue_object (h : ∀ part ∈ parts, IsField part.toList) :
    IsValue (enclose layout "\x7b" "\x7d" parts).toList := by
  have space : IsGap [' '] := by simp [IsGap]
  rcases eq_or_ne parts [] with rfl | ne
  · exact toList_enclose_nil layout _ _ ▸ .emptyObject isGap_nil
  · refine toList_enclose ne layout _ _ ▸ .object (series_intercalate IsField IsFields ?_ ?_ ne h
      (isGap_lineBreak _) (isGap_lineBreak _))
    · rintro before - after hb ⟨key, value, hk, hv, rfl⟩ ha
      simpa using IsFields.last hb hk isGap_nil space hv ha
    · rintro before - fields hb ⟨key, value, hk, hv, rfl⟩ hf
      simpa using IsFields.more hb hk isGap_nil space hv isGap_nil hf

/-! ## Values -/

mutual

theorem isValue_write : ∀ (value : Json) (layout : Layout), IsValue (value.write layout).toList
  | .null, _ => .word (show "null".toList ∈ _ by decide)
  | .bool true, _ => .word (show "true".toList ∈ _ by decide)
  | .bool false, _ => .word (show "false".toList ∈ _ by decide)
  | .int n, _ => .number (isNumber_intText n)
  | .float x, _ => isValue_writeFloat x
  | .string s, _ => .text (isText_writeText s)
  | .list items, layout => isValue_list (isValue_writeItems items layout.deeper)
  | .object fields, layout => isValue_object (isField_writeFields fields layout.deeper)
termination_by structural value => value

theorem isValue_writeItems : ∀ (items : List Json) (layout : Layout),
    ∀ part ∈ writeItems layout items, IsValue part.toList
  | [], _ => fun _ hp => nomatch hp
  | item :: rest, layout =>
    List.forall_mem_cons.mpr ⟨isValue_write item layout, isValue_writeItems rest layout⟩
termination_by structural items => items

theorem isField_writeFields : ∀ (fields : List (String × Json)) (layout : Layout),
    ∀ part ∈ writeFields layout fields, IsField part.toList
  | [], _ => fun _ hp => nomatch hp
  | (key, value) :: rest, layout =>
    List.forall_mem_cons.mpr
      ⟨⟨_, _, isText_writeText key, isValue_write value layout, by simp⟩,
        isField_writeFields rest layout⟩
termination_by structural fields => fields

end

/-! ## What is written of a part -/

theorem writeItems_eq_map (layout : Layout) (items : List Json) :
    writeItems layout items = items.map (write layout) := by
  induction items with
  | nil => rfl
  | cons item items ih => rw [writeItems, ih, List.map_cons]

theorem writeFields_eq_map (layout : Layout) (fields : List (String × Json)) :
    writeFields layout fields = fields.map fun field =>
      writeText field.1 ++ ": " ++ field.2.write layout := by
  induction fields with
  | nil => rfl
  | cons field fields ih => rw [writeFields, ih, List.map_cons]

theorem infix_intercalate {part separator : String} (h : part ∈ parts) :
    part.toList <:+: (separator.intercalate parts).toList := by
  induction parts with
  | nil => cases h
  | cons first parts ih =>
    cases parts with
    | nil =>
      obtain rfl := List.mem_singleton.mp h
      exact String.intercalate_singleton ▸ List.infix_rfl
    | cons next parts =>
      rw [String.intercalate_cons_cons, String.toList_append]
      rcases List.mem_cons.mp h with rfl | later
      · rw [String.toList_append, List.append_assoc]
        exact (List.prefix_append _ _).isInfix
      · exact (ih later).trans (List.suffix_append _ _).isInfix

theorem infix_enclose {part : String} (h : part ∈ parts) (layout : Layout)
    (opening closing : String) :
    part.toList <:+: (enclose layout opening closing parts).toList := by
  have inner : part.toList <:+: (layout.deeper.separator.intercalate parts).toList :=
    infix_intercalate h
  rw [toList_enclose (List.ne_nil_of_mem h)]
  exact inner.trans ⟨opening.toList ++ layout.deeper.lineBreak.toList,
    layout.lineBreak.toList ++ closing.toList, by simp only [List.append_assoc]⟩

theorem infix_list {items : List Json} {item : Json} (h : item ∈ items) (layout : Layout) :
    (item.write layout.deeper).toList <:+: ((Json.list items).write layout).toList := by
  refine infix_enclose ?_ _ _ _
  rw [writeItems_eq_map]
  exact List.mem_map.mpr ⟨item, h, rfl⟩

theorem infix_object {fields : List (String × Json)} (key : String) (value : Json)
    (h : (key, value) ∈ fields) (layout : Layout) :
    (value.write layout.deeper).toList <:+: ((Json.object fields).write layout).toList := by
  have field :
      writeText key ++ ": " ++ value.write layout.deeper ∈ writeFields layout.deeper fields := by
    rw [writeFields_eq_map]
    exact List.mem_map.mpr ⟨(key, value), h, rfl⟩
  refine List.IsInfix.trans ?_ (infix_enclose field _ _ _)
  rw [String.toList_append]
  exact (List.suffix_append _ _).isInfix

theorem isDocument_indented (value : Json) : IsDocument value.indented :=
  ⟨[], value.indented.toList, [], isGap_nil, isValue_write value (.indented 0), isGap_nil, by simp⟩

end Handoff.Json
