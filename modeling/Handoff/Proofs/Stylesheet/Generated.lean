import Handoff.Proofs.Component.Name
import Handoff.Proofs.Stylesheet.Line
import Handoff.Stylesheet.Text

/-! # Generated stylesheets

Nothing is found in the stylesheet of a component. Its selectors and the names of its variables are
made of the class of the component, which holds no mark of the language, and its values either fit
or are the colors of the palette, which no property but a custom one takes.
-/

namespace Handoff.Stylesheet

open Text Component

variable {lineComments : Bool} {depth depth' depth'' : Int} {c : Char}
  {text selector indent b : List Char}

/-! ## Lines that pass -/

/-- Lines in which nothing is found and that take the depth of the braces from one value to
another. -/
def Passes (lineComments : Bool) (depth : Int) (lines : List (List Char)) (depth' : Int) : Prop :=
  Reads lineComments depth lines (fun _ => []) depth'

section Passes

variable {lines lines' : List (List Char)}

theorem Passes.append (h : Passes lineComments depth lines depth')
    (h' : Passes lineComments depth' lines' depth'') :
    Passes lineComments depth (lines ++ lines') depth'' :=
  Reads.append h h'

theorem passes_forall (h : ∀ line ∈ lines, Passes lineComments depth [line] depth) :
    Passes lineComments depth lines depth := by
  induction lines with
  | nil => exact reads_nil
  | cons line rest ih =>
    obtain ⟨first, others⟩ := List.forall_mem_cons.mp h
    exact first.append (ih others)

def isRuleHead (selector : List Char) : Bool :=
  (trim selector).head? == some '@' || isSelector (trim selector)

/-- A rule around lines that pass. Only at the outermost level its selector is looked at. -/
theorem Passes.rule (body : Passes lineComments (depth + 1) lines (depth + 1))
    (plain : IsPlain selector) (headed : depth ≤ 0 → isRuleHead selector = true)
    (spaces : ∀ c ∈ indent, c = ' ') :
    Passes lineComments depth (openingLine selector :: lines ++ [indent ++ ['\x7d']]) depth := by
  have opening : Passes lineComments depth [openingLine selector] (depth + 1) := by
    have none (number : Nat) :
        (if depth ≤ 0 then checkSelector number (trim selector) else []) = [] := by
      split
      case isTrue outside => exact if_pos (headed outside)
      case isFalse => rfl
    have opened : Reads lineComments depth [openingLine selector] _ (depth + 1) :=
      reads_opening plain
    simpa only [Passes, none] using opened
  have closing : Passes lineComments (depth + 1) [indent ++ ['\x7d']] (depth + 1 - 1) :=
    reads_closing spaces
  rw [Int.add_sub_cancel] at closing
  exact (opening.append body).append closing

theorem Passes.outer (body : Passes lineComments 1 lines 1) (plain : IsPlain selector)
    (headed : isRuleHead selector = true) :
    Passes lineComments 0 (openingLine selector :: lines ++ [['\x7d']]) 0 := by
  have spaces : ∀ c ∈ ([] : List Char), c = ' ' := by simp
  exact Passes.rule body plain (fun _ => headed) spaces

theorem Passes.nested (body : Passes lineComments (depth + 1) lines (depth + 1))
    (plain : IsPlain selector) (inside : 0 < depth) :
    Passes lineComments depth (openingLine selector :: lines ++ ["  \x7d".toList]) depth := by
  have spaces : ∀ c ∈ [' ', ' '], c = ' ' := by decide
  exact body.rule plain (fun outside => absurd inside (Int.not_lt.mpr outside)) spaces

def isFitting (property value : List Char) : Bool :=
  isKnownProperty (lower (trim property)) &&
    (valueFault? (lower (trim property)) (withoutImportance value)).isNone

theorem checkDeclaration_of_isFitting {property value : List Char}
    (h : isFitting property value = true)
    (number : Nat) : checkDeclaration number (declarationOf property value) = [] := by
  obtain ⟨known, fit⟩ := Bool.and_eq_true_iff.mp h
  simp [checkDeclaration, declarationOf, known, Option.isNone_iff_eq_none.mp fit]

theorem passes_declaration {property value : List Char} (hp : IsPlain property) (hv : IsPlain value)
    (uncoloned : ':' ∉ property) (named : trim property ≠ [])
      (fits : isFitting property value = true)
    (inside : 0 < depth) : Passes lineComments depth [declarationLine property value] depth := by
  simpa only [Passes, checkDeclaration_of_isFitting fits] using
    reads_declaration hp hv uncoloned named inside

/-- Whether a declaration can stand on a line of its own and nothing is wrong with it. -/
def isFlawless (property value : List Char) : Bool :=
  property.all (fun c => isPlainChar c && c != ':') && value.all isPlainChar &&
    !(trim property).isEmpty && isFitting property value

theorem passes_fixed (property value : String)
    (flawless : isFlawless property.toList value.toList = true) (inside : 0 < depth) :
    Passes lineComments depth [declarationLine property.toList value.toList] depth := by
  simp only [isFlawless, Bool.and_eq_true, List.all_eq_true, bne_iff_ne] at flawless
  obtain ⟨⟨⟨hp, hv⟩, named⟩, fits⟩ := flawless
  exact passes_declaration (isPlain_of_forall fun c hc => (hp c hc).1) (isPlain_of_forall hv)
    (fun hm => (hp _ hm).2 rfl) (by simpa using named) fits inside

theorem passes_statement (text : String) (plain : text.toList.all isPlainChar = true)
    (uncoloned : ':' ∉ text.toList) : Passes lineComments depth [text.toList ++ [';']] depth :=
  reads_statement (isPlain_of_forall (List.all_eq_true.mp plain)) fun _ => uncoloned

theorem Passes.check_text {lines : List String}
    (h : Passes lineComments 0 (lines.map String.toList) 0) :
    check lineComments (Stylesheet.text lines).toList = [] := by
  have joined : (Stylesheet.text lines).toList =
      (lines.map String.toList).flatMap (· ++ ['\n']) := by
    rw [Stylesheet.text, String.toList_join, List.flatMap_map, List.flatMap_map]
    simp
  rw [joined]
  exact Reads.check_ended h

end Passes

/-! ## Classes and colors -/

theorem isPlainChar_of_isClassChar (h : isClassChar c = true) : isPlainChar c = true :=
  ascii_forall (p := fun c => isClassChar c = true → isPlainChar c = true) (by decide) c
    (toNat_lt_of_isClassChar h) h

theorem isSelectorChar_of_isClassChar (h : isClassChar c = true) : isSelectorChar c = true := by
  rcases isClassChar_iff.mp h with letter | rfl
  · simp [isSelectorChar, isWord_of_isAlphanum (toNat_lt_of_isAlphanum letter) letter]
  · decide

theorem isPlain_around (a b : List Char) (ha : a.all isPlainChar = true)
    (hb : b.all isPlainChar = true)
    (h : ∀ c ∈ text, isClassChar c = true) : IsPlain (a ++ text ++ b) := by
  have inner : ∀ c ∈ text, isPlainChar c = true := fun c hc => isPlainChar_of_isClassChar (h c hc)
  exact isPlain_of_forall (List.forall_mem_append.mpr
    ⟨List.forall_mem_append.mpr ⟨List.all_eq_true.mp ha, inner⟩, List.all_eq_true.mp hb⟩)

theorem isRuleHead_class (hb : b.all isSelectorChar = true) (h : ∀ c ∈ text, isClassChar c = true) :
    isRuleHead (['.'] ++ text ++ b) = true := by
  have fit : ∀ c ∈ trim (['.'] ++ text ++ b), isSelectorChar c = true := by
    have whole : ∀ c ∈ ['.'] ++ text ++ b, isSelectorChar c = true :=
      List.forall_mem_append.mpr ⟨List.forall_mem_append.mpr
        ⟨by decide, fun c hc => isSelectorChar_of_isClassChar (h c hc)⟩, List.all_eq_true.mp hb⟩
    obtain ⟨front, back, same⟩ := trimBoth_infix isSpace (['.'] ++ text ++ b)
    intro c hc
    refine whole c ?_
    rw [same]
    exact List.mem_append_left _ (List.mem_append_right _ hc)
  have dot : '.' ∈ trim (['.'] ++ text ++ b) := by
    rw [trim, mem_trimBoth_iff (by decide)]
    simp
  have filled : (trim (['.'] ++ text ++ b)).isEmpty = false := by
    simpa using List.ne_nil_of_mem dot
  rw [isRuleHead, isSelector, filled, List.all_eq_true.mpr fit]
  exact Bool.or_true _

/-- Whether a text is a color as palettes hold them: a hash and six or eight hexadecimal digits. -/
def isPaletteColor (color : String) : Bool :=
  match color.toList with
  | '#' :: digits => (digits.length == 6 || digits.length == 8) && digits.all isHexDigit
  | _ => false

theorem isClassChar_of_isHexDigit (h : isHexDigit c = true) : isClassChar c = true := by
  have small : c.toNat < 128 := by
    simp only [isHexDigit, Char.isDigit, Bool.or_eq_true, Bool.and_eq_true, decide_eq_true_eq,
      Char.le_def, UInt32.le_iff_toNat_le, ge_iff_le] at h
    change ((48 ≤ c.toNat ∧ c.toNat ≤ 57) ∨ (97 ≤ c.toNat ∧ c.toNat ≤ 102)) ∨
      (65 ≤ c.toNat ∧ c.toNat ≤ 70) at h
    omega
  exact ascii_forall (p := fun c => isHexDigit c = true → isClassChar c = true)
    (by decide) c small h

theorem isClassChar_repr (n : Nat) : ∀ c ∈ n.repr.toList, isClassChar c = true := by
  intro c hc
  rw [Nat.toList_repr] at hc
  have digit := Nat.isDigit_of_mem_toDigits (by decide) (by decide) hc
  exact isClassChar_iff.mpr (.inl (by simp [Char.isAlphanum, digit]))

theorem digits_of_isPaletteColor {color : String} (h : isPaletteColor color = true) :
    ∃ digits, color.toList = '#' :: digits ∧ digits ≠ [] ∧ ∀ d ∈ digits, isHexDigit d = true := by
  unfold isPaletteColor at h
  split at h
  case h_1 digits same =>
    obtain ⟨size, hex⟩ := Bool.and_eq_true_iff.mp h
    refine ⟨digits, same, ?_, List.all_eq_true.mp hex⟩
    rintro rfl
    cases size
  case h_2 => cases h

theorem isPlain_color {color : String} (h : isPaletteColor color = true) :
    IsPlain color.toList := by
  obtain ⟨digits, same, -, hex⟩ := digits_of_isPaletteColor h
  rw [same]
  simpa using isPlain_around ['#'] [] (by decide) (by decide)
    fun d hd => isClassChar_of_isHexDigit (hex d hd)

theorem withoutImportance_color {color : String} (h : isPaletteColor color = true) :
    withoutImportance color.toList ≠ [] := by
  obtain ⟨digits, same, ne, hex⟩ := digits_of_isPaletteColor h
  have last : color.toList.getLast? = some (digits.getLast ne) := by
    rw [same, List.getLast?_cons, List.getLast?_eq_getLast_of_ne_nil ne]
    rfl
  have digit : isHexDigit (digits.getLast ne) = true := hex _ (List.getLast_mem ne)
  have small := toNat_lt_of_isClassChar (isClassChar_of_isHexDigit digit)
  have plain : isSpace (digits.getLast ne) = false ∧ (digits.getLast ne).toLower ≠ 't' :=
    ascii_forall (p := fun d => isHexDigit d = true → isSpace d = false ∧ d.toLower ≠ 't')
      (by decide) _
      small digit
  rw [withoutImportance_of_getLast? last plain.1 plain.2]
  refine List.ne_nil_of_mem (a := '#') ?_
  rw [trim, mem_trimBoth_iff (by decide), same]
  exact List.mem_cons_self

/-! ## The lines of the palette -/

def variableName (cls : List Char) (n : Nat) : List Char := cls ++ "-color-".toList ++ n.repr.toList

theorem isClassChar_variableName {cls : List Char} (classed : ∀ c ∈ cls, isClassChar c = true)
    (n : Nat) :
    ∀ c ∈ variableName cls n, isClassChar c = true :=
  List.forall_mem_append.mpr
    ⟨List.forall_mem_append.mpr ⟨classed, by decide⟩, isClassChar_repr n⟩

theorem trim_custom (h : ∀ c ∈ text, isClassChar c = true) :
    trim ("  --".toList ++ text) = "--".toList ++ text := by
  have solid : ∀ c ∈ "--".toList ++ text, isSpace c = false :=
    List.forall_mem_append.mpr ⟨by decide, fun c hc => not_isSpace_of_isClassChar (h c hc)⟩
  have split : "  --".toList ++ text = "  ".toList ++ ("--".toList ++ text) := rfl
  rw [split, trim, trimBoth_append_left (by decide)]
  exact trimBoth_eq_self (fun c hc => solid c (List.mem_of_mem_head? hc))
    fun c hc => solid c (List.mem_of_getLast? hc)

theorem isFitting_custom {value : List Char} (h : ∀ c ∈ text, isClassChar c = true)
    (named : text ≠ [])
    (filled : withoutImportance value ≠ []) : isFitting ("  --".toList ++ text) value = true := by
  have small : ∀ c ∈ "--".toList ++ text, c.toNat < 128 :=
    List.forall_mem_append.mpr ⟨by decide, fun c hc => toNat_lt_of_isClassChar (h c hc)⟩
  have name : lower (trim ("  --".toList ++ text)) = "--".toList ++ text.map Char.toLower := by
    rw [trim_custom h, lower_of_ascii small, List.map_append]
    rfl
  have marked : "--".toList.isPrefixOf ("--".toList ++ text.map Char.toLower) = true := by simp
  have long : 2 < ("--".toList ++ text.map Char.toLower).length := by
    have := List.length_pos_of_ne_nil named
    simp
    omega
  have known : isKnownProperty ("--".toList ++ text.map Char.toLower) = true := by
    rw [isKnownProperty, if_pos marked]
    exact decide_eq_true long
  have fit :
      valueFault? ("--".toList ++ text.map Char.toLower) (withoutImportance value) = none := by
    rw [valueFault?, if_neg (by simpa using filled), marked]
    rfl
  rw [isFitting, name, known, fit]
  rfl

theorem passes_custom {color : String} (h : ∀ c ∈ text, isClassChar c = true) (named : text ≠ [])
    (colored : isPaletteColor color = true) (inside : 0 < depth) :
    Passes lineComments depth [declarationLine ("  --".toList ++ text) color.toList] depth := by
  have plain : IsPlain ("  --".toList ++ text) := by
    simpa using isPlain_around "  --".toList [] (by decide) (by decide) h
  have uncoloned : ':' ∉ "  --".toList ++ text :=
    List.not_mem_append (by decide) fun hm => absurd (h _ hm) (by decide)
  have trimmed : trim ("  --".toList ++ text) ≠ [] := by
    rw [trim_custom h]
    simp
  exact passes_declaration plain (isPlain_color colored) uncoloned trimmed
    (isFitting_custom h named (withoutImportance_color colored)) inside

theorem passes_variable {color : String} (h : ∀ c ∈ text, isClassChar c = true)
    (colored : isPaletteColor color = true) :
    Passes lineComments 0 ["$".toList ++ text ++ ": ".toList ++ color.toList ++ [';']] 0 := by
  have named : IsPlain ("$".toList ++ text ++ ": ".toList) :=
    isPlain_around _ _ (by decide) (by decide) h
  have plain := named.append (isPlain_color colored) fun last => by
    rw [List.getLast?_append_of_ne_nil _ (by decide)] at last
    cases last
  exact reads_statement plain fun inside => absurd inside (by decide)

section Sheets

variable {cls : String} {palette : List String}

theorem mem_of_mem_numbered {entry : Nat × String} (h : entry ∈ numbered palette) :
    entry.2 ∈ palette := by
  obtain ⟨⟨color, index⟩, hm, rfl⟩ := List.mem_map.mp h
  exact List.fst_mem_of_mem_zipIdx hm

theorem passes_palette {line : Nat × String → List Char}
    (colors : ∀ color ∈ palette, isPaletteColor color = true)
    (each : ∀ n color, isPaletteColor color = true →
      Passes lineComments depth [line (n, color)] depth) :
    Passes lineComments depth ((numbered palette).map line) depth := by
  refine passes_forall fun text hm => ?_
  obtain ⟨⟨n, color⟩, he, rfl⟩ := List.mem_map.mp hm
  exact each n color (colors color (mem_of_mem_numbered he))

theorem passes_layout (inside : 0 < depth) :
    Passes lineComments depth ([declarationLine "  display".toList "inline-block".toList] ++
      [declarationLine "  line-height".toList "0".toList]) depth :=
  (passes_fixed "  display" "inline-block" (by decide +kernel) inside).append
    (passes_fixed "  line-height" "0" (by decide +kernel) inside)

theorem passes_css (classed : ∀ c ∈ cls.toList, isClassChar c = true)
    (colors : ∀ color ∈ palette, isPaletteColor color = true) :
    Passes false 0 ((cssLines cls palette).map String.toList) 0 := by
  have named (n : Nat) : variableName cls.toList n ≠ [] := by simp [variableName]
  have customs : Passes false 1 ((numbered palette).map fun entry =>
      declarationLine ("  --".toList ++ variableName cls.toList entry.1) entry.2.toList) 1 :=
    passes_palette colors fun n color colored =>
      passes_custom (isClassChar_variableName classed n) (named n) colored (by decide)
  have root : Passes false 0 _ 0 := Passes.outer ((passes_layout (by decide)).append customs)
    (isPlain_around ['.'] [] (by decide) (by decide) classed) (isRuleHead_class (by decide) classed)
  have drawing : Passes false 0 _ 0 := Passes.outer
    ((passes_fixed "  max-width" "100%" (by decide +kernel) (by decide)).append
      (passes_fixed "  height" "auto" (by decide +kernel) (by decide)))
    (isPlain_around ['.'] " svg".toList (by decide) (by decide) classed)
    (isRuleHead_class (by decide) classed)
  have narrow : Passes false 1 _ 1 := Passes.nested
    (passes_fixed "    width" "100%" (by decide +kernel) (by decide))
    (isPlain_around "  .".toList [] (by decide) (by decide) classed) (by decide)
  have query : ∀ c ∈ "@media (max-width: 768px)".toList, isPlainChar c = true := by decide
  have media : Passes false 0 _ 0 := narrow.outer (isPlain_of_forall query) (by decide +kernel)
  have whole := (((root.append reads_blank).append drawing).append reads_blank).append media
  simpa [cssLines, openingLine, declarationLine, variableName, Function.comp_def,
    toString] using whole

theorem passes_scss (classed : ∀ c ∈ cls.toList, isClassChar c = true)
    (colors : ∀ color ∈ palette, isPaletteColor color = true) :
    Passes true 0 ((scssLines cls palette).map String.toList) 0 := by
  have width : Passes true 0 ["$".toList ++ cls.toList ++ "-breakpoint: 768px".toList ++ [';']] 0 :=
    reads_statement (isPlain_around _ _ (by decide) (by decide) classed)
      fun inside => absurd inside (by decide)
  have kept : Passes true 0 ((numbered palette).map fun entry =>
      "$".toList ++ variableName cls.toList entry.1 ++ ": ".toList ++ entry.2.toList ++ [';']) 0 :=
    passes_palette colors fun n color colored =>
      passes_variable (isClassChar_variableName classed n) colored
  have svg : ∀ c ∈ "  svg".toList, isPlainChar c = true := by decide
  have drawing : Passes true 1 _ 1 := Passes.nested
    ((passes_fixed "    max-width" "100%" (by decide +kernel) (by decide)).append
      (passes_fixed "    height" "auto" (by decide +kernel) (by decide)))
    (isPlain_of_forall svg) (by decide)
  have media : Passes true 1 _ 1 := Passes.nested
    (passes_fixed "    width" "100%" (by decide +kernel) (by decide))
    (isPlain_around "  @media (max-width: $".toList "-breakpoint)".toList (by decide) (by decide)
      classed) (by decide)
  have layout : Passes true 1 _ 1 := passes_layout (by decide)
  have root : Passes true 0 _ 0 := Passes.outer
    ((((layout.append reads_blank).append drawing).append reads_blank).append media)
    (isPlain_around ['.'] [] (by decide) (by decide) classed) (isRuleHead_class (by decide) classed)
  have whole := ((width.append kept).append reads_blank).append root
  simpa [scssLines, openingLine, declarationLine, variableName, Function.comp_def,
    toString] using whole

theorem passes_tailwind (classed : ∀ c ∈ cls.toList, isClassChar c = true) :
    Passes false 0 ((tailwindLines cls).map String.toList) 0 := by
  have head : Passes false 0 _ 0 :=
    ((passes_statement "@tailwind base" (by decide) (by decide)).append
      (passes_statement "@tailwind components" (by decide) (by decide))).append
      (passes_statement "@tailwind utilities" (by decide) (by decide))
  have root : Passes false 1 _ 1 := Passes.nested
    (passes_statement "    @apply inline-block leading-none" (by decide) (by decide))
    (isPlain_around "  .".toList [] (by decide) (by decide) classed) (by decide)
  have components : ∀ c ∈ "@layer components".toList, isPlainChar c = true := by decide
  have layer : Passes false 0 _ 0 := root.outer (isPlain_of_forall components) (by decide +kernel)
  simpa [tailwindLines, openingLine] using (head.append reads_blank).append layer

/-- Nothing is found in the stylesheet of a component, whatever the component is called and however
many colors the palette has. -/
theorem check_generate (name : String) (config : Config) (palette : List String)
    (colors : ∀ color ∈ palette, isPaletteColor color = true)
    (styled : effectiveStyling config ≠ .styledComponents) :
    check (effectiveStyling config == .scss) (generate name config palette).toList = [] := by
  have classed : ∀ c ∈ (classOfString name).toList, isClassChar c = true := by
    simpa [classOfString] using isClassChar_classOf name.toList
  unfold generate
  cases styling : effectiveStyling config with
  | css => exact (passes_css classed colors).check_text
  | scss => exact (passes_scss classed colors).check_text
  | styledComponents => exact absurd styling styled
  | tailwind => exact (passes_tailwind classed).check_text

theorem check_generate_fallback :
    (∀ color ∈ ["#1a2B3c", "#ffffff80"], isPaletteColor color = true) ∧
      effectiveStyling { framework := .vue, styling := .styledComponents } ≠ .styledComponents ∧
      check false (generate "Icon Button" { framework := .vue, styling := .styledComponents }
        ["#1a2B3c", "#ffffff80"]).toList = [] :=
  ⟨by decide, by decide,
    check_generate "Icon Button" { framework := .vue, styling := .styledComponents }
      ["#1a2B3c", "#ffffff80"] (by decide) (by decide)⟩

end Sheets

end Handoff.Stylesheet
