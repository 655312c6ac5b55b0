import Mathlib.Data.List.TakeWhile
import SheetReport.Proofs.Sequence
import SheetReport.Proofs.Xml.Entries
import SheetReport.Workbook.StylePart

/-!
# Entries of the lists in a styles part

A font, a fill and a format are each told by their own elements: by the last one of each name. Read
one after another, they add exactly that to the lists read so far. What was read before makes no
difference, not even the fill pattern that is kept from one fill to the next.
-/

namespace SheetReport.StylePart

open Xml (Element Fault read? eq_ok_read? eq_ok_decide isOk_map last? last?_nil last?_concat
  last?_append last?_eq_none isSome_last?)

/-! ### What elements tell -/

/-- A font with the properties that some elements state; the last one of each name counts. -/
def fontOf (own : List Element) : Font :=
  { name := (last? "name" own).bind fun e => read? (e.attribute? "val")
    size := (last? "sz" own).bind fun e => read? (e.parsed? "val" Number.float?)
    color := (last? "color" own).bind fun e => read? (color? e)
    bold := (last? "b" own).any fun e => (e.flag "val" true).toOption = some true
    italic := (last? "i" own).any fun e => (e.flag "val" true).toOption = some true
    underline := (last? "u" own).any fun e => read? (e.attribute? "val") != some "none" }

/-- Whether the pattern among the elements of a fill is solid. -/
def isSolid (own : List Element) : Bool :=
  (last? "patternFill" own).any fun e => read? (e.attribute? "patternType") == some "solid"

/-- The colour of a fill with some elements, if its pattern is solid. -/
def fillOf (own : List Element) : Option Nat :=
  if isSolid own then (last? "fgColor" own).bind fun e => read? (color? e) else none

/-- A number that an element states, or else 0. -/
def number (limit : Nat) (name : String) (e : Element) : Nat :=
  (read? (e.parsed? name (Number.nat? limit))).getD 0

/-- A format with the alignment among some elements. -/
def listedOf (format : Element) (own : List Element) : Listed :=
  { number := number limit32 "numFmtId" format
    font := number limit64 "fontId" format
    fill := number limit64 "fillId" format
    horizontal := (last? "alignment" own).bind fun e =>
      (read? (e.attribute? "horizontal")).bind HorizontalAlign.ofName?
    vertical := (last? "alignment" own).bind fun e =>
      (read? (e.attribute? "vertical")).bind VerticalAlign.ofName?
    wrap := (last? "alignment" own).any fun e => (e.flag "wrapText" false).toOption = some true }

/-- The number and the code of a custom number format, if an element states both. -/
def definedCode? (e : Element) : Option (Nat × String) :=
  if e.localName = "numFmt" then
    (read? (e.parsed? "numFmtId" (Number.nat? limit32))).bind fun id =>
      (read? (e.attribute? "formatCode")).map fun code => (id, code)
  else none

/-- The names of the attributes that are always read of an element in a section. -/
def attributesRead : Section → String → List String
  | .numberFormats, "numFmt" => ["numFmtId", "formatCode"]
  | .fonts, "b" => ["val"]
  | .fonts, "i" => ["val"]
  | .fonts, "u" => ["val"]
  | .fonts, "sz" => ["val"]
  | .fonts, "name" => ["val"]
  | .fonts, "color" => ["rgb"]
  | .fills, "patternFill" => ["patternType"]
  | .cellFormats, "xf" => ["numFmtId", "fontId", "fillId"]
  | .cellFormats, "alignment" => ["horizontal", "vertical", "wrapText"]
  | _, _ => []

/-- Whether all attributes that are read of an element can be read. -/
def IsReadable (inside : Section) (e : Element) : Prop :=
  ∀ name ∈ attributesRead inside e.localName, (e.attribute? name).isOk = true

instance (inside : Section) (e : Element) : Decidable (IsReadable inside e) :=
  inferInstanceAs (Decidable (∀ name ∈ attributesRead inside e.localName, _))

/-- Whether the colours of a fill follow a pattern and no pattern follows them. -/
def IsPatternFirst (own : List Element) : Prop :=
  (∀ e ∈ own, e.localName ≠ "fgColor") ∨
    (∃ e ∈ own.takeWhile (·.localName ≠ "fgColor"), e.localName = "patternFill") ∧
      ∀ e ∈ own.dropWhile (·.localName ≠ "fgColor"), e.localName ≠ "patternFill"

instance (own : List Element) : Decidable (IsPatternFirst own) :=
  inferInstanceAs (Decidable (_ ∨ _))

/-! ### What reading adds -/

/-- What the sections of a styles part list, in order. -/
structure Tables where
  codes : List (Nat × String) := []
  fonts : List Font := []
  fills : List (Option Nat) := []
  formats : List Listed := []

namespace Tables

instance : Append Tables where
  append t t' := ⟨t.codes ++ t'.codes, t.fonts ++ t'.fonts, t.fills ++ t'.fills,
    t.formats ++ t'.formats⟩

/-- Tables are appended list by list. -/
theorem append_def (t t' : Tables) : t ++ t' = ⟨t.codes ++ t'.codes, t.fonts ++ t'.fonts,
    t.fills ++ t'.fills, t.formats ++ t'.formats⟩ := rfl

end Tables

/-- What is added to the lists read so far. -/
structure State.Added (s : State) (t : Tables) (s' : State) : Prop where
  codes : s'.codes = t.codes.foldl (fun codes c => codes.insert c.1 c.2) s.codes
  fonts : s'.fonts = t.fonts.reverse ++ s.fonts
  fills : s'.fills = t.fills.reverse ++ s.fills
  formats : s'.formats = t.formats.reverse ++ s.formats

namespace State.Added

variable {s s' s'' : State} {t t' : Tables}

/-- Nothing is added to a state to get the state itself. -/
theorem refl (s : State) : s.Added {} s := ⟨rfl, rfl, rfl, rfl⟩

/-- What is added later follows what was added before. -/
theorem trans (h : s.Added t s') (h' : s'.Added t' s'') : s.Added (t ++ t') s'' where
  codes := by rw [h'.codes, h.codes, Tables.append_def, List.foldl_append]
  fonts := by rw [h'.fonts, h.fonts, Tables.append_def, List.reverse_append, List.append_assoc]
  fills := by rw [h'.fills, h.fills, Tables.append_def, List.reverse_append, List.append_assoc]
  formats := by
    rw [h'.formats, h.formats, Tables.append_def, List.reverse_append, List.append_assoc]

end State.Added

/-- Whether elements of a section are read without a fault and add some lists, whatever was read
before. -/
def Reads (inside : Section) (elements : List Element) (t : Tables) : Prop :=
  ∀ s : State, s.inside = inside →
    ∃ s', elements.foldlM readElement s = .ok s' ∧ s'.inside = inside ∧ s.Added t s'

namespace Reads

variable {inside : Section} {es es' : List Element} {t t' : Tables} {e : Element}

/-- No elements add nothing. -/
theorem nil : Reads inside [] {} := fun s hs => ⟨s, rfl, hs, .refl s⟩

/-- Elements that follow one another add one list after the other. -/
theorem append (h : Reads inside es t) (h' : Reads inside es' t') :
    Reads inside (es ++ es') (t ++ t') := by
  intro s hs
  obtain ⟨s', hread, hs', hadded⟩ := h s hs
  obtain ⟨s'', hread', hs'', hadded'⟩ := h' s' hs'
  refine ⟨s'', ?_, hs'', hadded.trans hadded'⟩
  rw [List.foldlM_append, hread]
  exact hread'

/-- A single element is read in one step. -/
theorem of_readElement
    (h : ∀ s : State, s.inside = inside →
      ∃ s', readElement s e = .ok s' ∧ s'.inside = inside ∧ s.Added t s') :
    Reads inside [e] t := by
  intro s hs
  obtain ⟨s', hread, hafter⟩ := h s hs
  refine ⟨s', ?_, hafter⟩
  rw [List.foldlM_cons, hread]
  rfl

end Reads

section

variable {s : State} {e : Element}

/-! ### What one element changes -/

/-- A colour can be read exactly if its attribute can. -/
theorem isOk_color? (e : Element) : (color? e).isOk = (e.attribute? "rgb").isOk := isOk_map _

/-- An attribute that is read can be read. -/
theorem IsReadable.isOk {inside : Section} {kind name : String} (h : IsReadable inside e)
    (hkind : e.localName = kind) (hname : name ∈ attributesRead inside kind) :
    (e.attribute? name).isOk = true :=
  h name (hkind ▸ hname)

/-- What an element changes, section by section. -/
theorem readElement_eq (s : State) (e : Element) :
    readElement s e =
      match s.inside with
      | .other => .ok s
      | .numberFormats =>
        if e.localName = "numFmt" then do
          let id ← e.parsed? "numFmtId" (Number.nat? limit32)
          let code ← e.attribute? "formatCode"
          let defined := id.bind fun id => code.map fun code => (id, code)
          .ok { s with codes := defined.toList.foldl (fun codes c => codes.insert c.1 c.2) s.codes }
        else .ok s
      | .fonts =>
        if e.localName = "font" then .ok { s with fonts := {} :: s.fonts }
        else (changeFirst (fontProperty e) s.fonts).map fun fonts => { s with fonts := fonts }
      | .fills =>
        if e.localName = "fill" then .ok { s with fills := none :: s.fills }
        else if e.localName = "patternFill" then
          (e.attribute? "patternType").map fun kind => { s with solid := kind == some "solid" }
        else if e.localName = "fgColor" ∧ s.solid = true then
          (changeFirst (fun _ => color? e) s.fills).map fun fills => { s with fills := fills }
        else .ok s
      | .cellFormats =>
        if e.localName = "xf" then
          (listed e).map fun format => { s with formats := format :: s.formats }
        else if e.localName = "alignment" then
          (changeFirst (alignment e) s.formats).map fun formats => { s with formats := formats }
        else .ok s := by
  unfold readElement
  split
  case h_1 hs hname =>
    simp only [hs, hname, if_true]
    refine bind_congr fun id => bind_congr fun code => ?_
    rw [← hs]
    cases id <;> cases code <;> rfl
  case h_2 hs hname => simp only [hs, hname, if_true]
  case h_3 hs hname =>
    simp only [hs, if_neg hname]
    cases changeFirst (fontProperty e) s.fonts <;> rfl
  case h_4 hs hname => simp only [hs, hname, if_true]
  case h_5 hs hname =>
    simp only [hs, hname, String.reduceEq, if_false, if_true]
    cases e.attribute? "patternType" <;> rfl
  case h_6 hs hname =>
    simp only [hs, hname, String.reduceEq, if_false, true_and]
    split
    · cases changeFirst (fun _ => color? e) s.fills <;> rfl
    · rfl
  case h_7 hs hname =>
    simp only [hs, hname, if_true]
    cases listed e <;> rfl
  case h_8 hs hname =>
    simp only [hs, hname, String.reduceEq, if_false, if_true]
    cases changeFirst (alignment e) s.formats <;> rfl
  case h_9 => split <;> simp_all

/-- Outside of the sections nothing is read. -/
theorem readElement_other (hs : s.inside = .other) : readElement s e = .ok s := by
  rw [readElement_eq, hs]

/-- In the section of number formats an element may define a code. -/
theorem readElement_numberFormats (hs : s.inside = .numberFormats)
    (h : IsReadable .numberFormats e) :
    readElement s e = .ok { s with
      codes := (definedCode? e).toList.foldl (fun codes c => codes.insert c.1 c.2) s.codes } := by
  rw [readElement_eq, hs, definedCode?]
  dsimp only
  split
  case isTrue hname =>
    have hid := eq_ok_read? ((e.isOk_parsed? _ (Number.nat? limit32)).trans
      (h.isOk hname (by decide : "numFmtId" ∈ _)))
    have hcode := eq_ok_read? (h.isOk hname (by decide : "formatCode" ∈ _))
    generalize read? (e.parsed? _ _) = id? at hid ⊢
    generalize read? (e.attribute? _) = code? at hcode ⊢
    rw [hid, hcode]
    rfl
  case isFalse => rw [← hs]; rfl

/-- In the section of fonts a font begins with the default properties. -/
theorem readElement_font (hs : s.inside = .fonts) (hname : e.localName = "font") :
    readElement s e = .ok { s with fonts := {} :: s.fonts } := by
  rw [readElement_eq, hs]
  exact if_pos hname

/-- In the section of fonts any other element changes the last font. -/
theorem readElement_fonts (hs : s.inside = .fonts) (hname : e.localName ≠ "font") :
    readElement s e =
      (changeFirst (fontProperty e) s.fonts).map fun fonts => { s with fonts := fonts } := by
  rw [readElement_eq, hs]
  exact if_neg hname

/-- In the section of fills a fill begins without a colour. -/
theorem readElement_fill (hs : s.inside = .fills) (hname : e.localName = "fill") :
    readElement s e = .ok { s with fills := none :: s.fills } := by
  rw [readElement_eq, hs]
  exact if_pos hname

/-- In the section of fills a pattern tells whether it is solid. -/
theorem readElement_patternFill (hs : s.inside = .fills) (hname : e.localName = "patternFill")
    (h : IsReadable .fills e) :
    readElement s e =
      .ok { s with solid := read? (e.attribute? "patternType") == some "solid" } := by
  rw [readElement_eq, hs]
  dsimp only
  rw [if_neg (by simp [hname]), if_pos hname, eq_ok_read? (h.isOk hname (by decide))]
  rfl

/-- After a solid pattern, a colour is that of the last fill. -/
theorem readElement_fgColor (hs : s.inside = .fills) (hname : e.localName = "fgColor")
    {colors : List (Option Nat)} {color : Option Nat} (hfills : s.fills = color :: colors)
    (h : s.solid = true → (e.attribute? "rgb").isOk = true) :
    readElement s e =
      .ok { s with fills := (if s.solid then read? (color? e) else color) :: colors } := by
  rw [readElement_eq, hs]
  dsimp only
  rw [if_neg (by simp [hname]), if_neg (by simp [hname]), hfills]
  by_cases hsolid : s.solid = true
  · rw [if_pos ⟨hname, hsolid⟩, if_pos hsolid, changeFirst,
      eq_ok_read? ((isOk_color? e).trans (h hsolid))]
    rfl
  · rw [if_neg fun hboth => hsolid hboth.2, if_neg hsolid, ← hfills,
      ← hs]

/-- In the section of fills no other element counts. -/
theorem readElement_fills (hs : s.inside = .fills) (hfill : e.localName ≠ "fill")
    (hpattern : e.localName ≠ "patternFill") (hcolor : e.localName ≠ "fgColor") :
    readElement s e = .ok s := by
  rw [readElement_eq, hs]
  dsimp only
  rw [if_neg hfill, if_neg hpattern, if_neg fun hboth => hcolor hboth.1]

/-- In the section of formats, a format begins without an alignment. -/
theorem readElement_xf (hs : s.inside = .cellFormats) (hname : e.localName = "xf")
    (h : IsReadable .cellFormats e) :
    readElement s e = .ok { s with formats := listedOf e [] :: s.formats } := by
  have hnumber := eq_ok_read? ((e.isOk_parsed? _ (Number.nat? limit32)).trans
    (h.isOk hname (by decide : "numFmtId" ∈ _)))
  have hfont := eq_ok_read? ((e.isOk_parsed? _ (Number.nat? limit64)).trans
    (h.isOk hname (by decide : "fontId" ∈ _)))
  have hfill := eq_ok_read? ((e.isOk_parsed? _ (Number.nat? limit64)).trans
    (h.isOk hname (by decide : "fillId" ∈ _)))
  rw [readElement_eq, hs]
  dsimp only
  rw [if_pos hname, listed, hnumber, hfont, hfill]
  rfl

/-- In the section of formats, an alignment is that of the last format. -/
theorem readElement_alignment (hs : s.inside = .cellFormats) (hname : e.localName = "alignment")
    (h : IsReadable .cellFormats e) {format : Element} {own : List Element} {formats : List Listed}
    (hformats : s.formats = listedOf format own :: formats) :
    readElement s e = .ok { s with formats := listedOf format (own ++ [e]) :: formats } := by
  have hhorizontal := eq_ok_read? (h.isOk hname (by decide : "horizontal" ∈ _))
  have hvertical := eq_ok_read? (h.isOk hname (by decide : "vertical" ∈ _))
  have hwrap := eq_ok_decide ((e.isOk_flag _ false).trans
    (h.isOk hname (by decide : "wrapText" ∈ _)))
  rw [readElement_eq, hs]
  dsimp only
  rw [if_neg (by simp [hname]), if_pos hname, hformats, changeFirst, alignment, hhorizontal,
    hvertical, hwrap]
  simp only [listedOf, last?_concat, hname]
  rfl

/-- In the section of formats no other element counts. -/
theorem readElement_cellFormats (hs : s.inside = .cellFormats) (hformat : e.localName ≠ "xf")
    (halignment : e.localName ≠ "alignment") : readElement s e = .ok s := by
  rw [readElement_eq, hs]
  dsimp only
  rw [if_neg hformat, if_neg halignment]

/-- One more element of a font gives the property that it states. -/
theorem fontProperty_fontOf {own : List Element} (h : IsReadable .fonts e) :
    fontProperty e (fontOf own) = .ok (fontOf (own ++ [e])) := by
  unfold fontProperty
  split
  all_goals
    rename_i hname
    simp only [fontOf, last?_concat, hname]
  · rw [eq_ok_decide ((e.isOk_flag _ _).trans (h.isOk hname (by decide)))]
    rfl
  · rw [eq_ok_decide ((e.isOk_flag _ _).trans (h.isOk hname (by decide)))]
    rfl
  · rw [eq_ok_read? (h.isOk hname (by decide))]
    rfl
  · rw [eq_ok_read? ((e.isOk_parsed? _ _).trans (h.isOk hname (by decide)))]
    rfl
  · rw [eq_ok_read? (h.isOk hname (by decide))]
    rfl
  · rw [eq_ok_read? ((isOk_color? e).trans (h.isOk hname (by decide)))]
    rfl
  · simp_all

end

/-! ### What the elements of an entry add -/

section

variable {format e : Element} {own es : List Element}

/-- The elements of the section of number formats add the codes that they define. -/
theorem reads_numberFormats (h : ∀ e ∈ es, IsReadable .numberFormats e) :
    Reads .numberFormats es { codes := es.filterMap definedCode? } := by
  induction es with
  | nil => exact .nil
  | cons e rest ih =>
    obtain ⟨he, hrest⟩ := List.forall_mem_cons.mp h
    have hfirst : Reads .numberFormats [e] { codes := (definedCode? e).toList } :=
      .of_readElement fun s hs =>
        ⟨_, readElement_numberFormats hs he, hs, ⟨rfl, rfl, rfl, rfl⟩⟩
    have hboth := hfirst.append (ih hrest)
    have hcodes : (e :: rest).filterMap definedCode? =
        (definedCode? e).toList ++ rest.filterMap definedCode? := by
      cases hcode : definedCode? e <;> simp [hcode]
    rw [hcodes]
    exact hboth

/-- The elements of a font add it with their properties. -/
theorem reads_font (hname : e.localName = "font") (hown : ∀ e ∈ own, e.localName ≠ "font")
    (h : ∀ e ∈ own, IsReadable .fonts e) :
    Reads .fonts (e :: own) { fonts := [fontOf own] } := by
  intro s hs
  refine ⟨{ s with fonts := fontOf own :: s.fonts }, ?_, hs, ⟨rfl, rfl, rfl, rfl⟩⟩
  rw [List.foldlM_cons, readElement_font hs hname]
  refine foldlM_eq_ok_of_concat (f := fun own => { s with fonts := fontOf own :: s.fonts }) []
    fun before e' after heq => ?_
  have he' : e' ∈ own := heq ▸ List.mem_append_cons_self
  rw [List.nil_append]
  refine Eq.trans (readElement_fonts hs (hown e' he')) ?_
  rw [changeFirst, fontProperty_fontOf (h e' he')]
  rfl

/-- The elements of a format add it with their alignment. -/
theorem reads_xf (hname : format.localName = "xf") (hformat : IsReadable .cellFormats format)
    (h : ∀ e ∈ own, e.localName ≠ "xf" ∧ IsReadable .cellFormats e) :
    Reads .cellFormats (format :: own) { formats := [listedOf format own] } := by
  intro s hs
  refine ⟨{ s with formats := listedOf format own :: s.formats }, ?_, hs, ⟨rfl, rfl, rfl, rfl⟩⟩
  rw [List.foldlM_cons, readElement_xf hs hname hformat]
  refine foldlM_eq_ok_of_concat
    (f := fun own => { s with formats := listedOf format own :: s.formats }) []
    fun before e after heq => ?_
  obtain ⟨hxf, he⟩ := h e (heq ▸ List.mem_append_cons_self)
  rw [List.nil_append]
  by_cases halignment : e.localName = "alignment"
  · exact readElement_alignment (s := { s with formats := listedOf format before :: s.formats })
      hs halignment he rfl
  · refine Eq.trans (readElement_cellFormats hs hxf halignment) ?_
    simp only [listedOf, last?_concat, halignment, if_false]

/-- Without a colour among them, elements of a fill tell at most whether its pattern is solid. -/
theorem foldlM_readElement_patterns {s : State} (hs : s.inside = .fills)
    (h : ∀ e ∈ es, e.localName ≠ "fill" ∧ e.localName ≠ "fgColor" ∧ IsReadable .fills e) :
    es.foldlM readElement s = .ok { s with
      solid := if (last? "patternFill" es).isSome then isSolid es else s.solid } := by
  refine foldlM_eq_ok_of_concat (f := fun es =>
    { s with solid := if (last? "patternFill" es).isSome then isSolid es else s.solid }) []
    fun before e after heq => ?_
  obtain ⟨hfill, hcolor, he⟩ := h e (heq ▸ List.mem_append_cons_self)
  rw [List.nil_append]
  by_cases hpattern : e.localName = "patternFill"
  · refine Eq.trans (readElement_patternFill hs hpattern he) ?_
    simp only [isSolid, last?_concat, hpattern, if_true]
    rfl
  · refine Eq.trans (readElement_fills hs hfill hpattern hcolor) ?_
    simp only [isSolid, last?_concat, hpattern, if_false]

/-- Without a pattern among them, elements of a fill state its colour. -/
theorem foldlM_readElement_colors {s : State} (hs : s.inside = .fills) {fills : List (Option Nat)}
    (hfills : s.fills = none :: fills)
    (h : ∀ e ∈ es, e.localName ≠ "fill" ∧ e.localName ≠ "patternFill")
    (hread : s.solid = true → ∀ e ∈ es, e.localName = "fgColor" → (e.attribute? "rgb").isOk = true) :
    es.foldlM readElement s = .ok { s with
      fills := (if s.solid then (last? "fgColor" es).bind fun e => read? (color? e) else none) ::
        fills } := by
  let after (es : List Element) : State := { s with fills :=
    (if s.solid then (last? "fgColor" es).bind fun e => read? (color? e) else none) :: fills }
  have hstart : after [] = s := by
    simp only [after, last?_nil, Option.bind_none, ite_self]
    rw [← hfills]
  suffices hrun : es.foldlM readElement (after []) = .ok (after es) by rwa [hstart] at hrun
  refine foldlM_eq_ok_of_concat (f := after) [] fun before e rest heq => ?_
  have he : e ∈ es := heq ▸ List.mem_append_cons_self
  obtain ⟨hfill, hpattern⟩ := h e he
  rw [List.nil_append]
  by_cases hcolor : e.localName = "fgColor"
  · refine Eq.trans (readElement_fgColor (s := after before) hs hcolor rfl fun hsolid =>
      hread hsolid e he hcolor) ?_
    simp only [after, last?_concat, hcolor, if_true, Option.bind_some]
    split <;> simp_all
  · refine Eq.trans (readElement_fills hs hfill hpattern hcolor) ?_
    simp only [after, last?_concat, hcolor, if_false]

/-- The elements of a fill without late patterns are patterns first and then colours. -/
theorem IsPatternFirst.exists_split (h : IsPatternFirst own) : ∃ patterns colors,
    own = patterns ++ colors ∧ (∀ e ∈ patterns, e.localName ≠ "fgColor") ∧
      (∀ e ∈ colors, e.localName ≠ "patternFill") ∧
        (colors = [] ∨ (last? "patternFill" patterns).isSome = true) := by
  obtain hnone | ⟨hpattern, hcolors⟩ := h
  · exact ⟨own, [], (List.append_nil own).symm, hnone, fun _ h => absurd h List.not_mem_nil,
      .inl rfl⟩
  · refine ⟨_, _, List.takeWhile_append_dropWhile.symm, fun e he => ?_, hcolors,
      .inr (isSome_last? hpattern)⟩
    simpa using List.mem_takeWhile_imp he

/-- The elements of a fill add it with its colour, whatever pattern stood before. -/
theorem reads_fill (hname : e.localName = "fill")
    (hown : ∀ e ∈ own, e.localName ≠ "fill" ∧ IsReadable .fills e) (hfirst : IsPatternFirst own)
    (hread : isSolid own = true →
      ∀ e ∈ own, e.localName = "fgColor" → (e.attribute? "rgb").isOk = true) :
    Reads .fills (e :: own) { fills := [fillOf own] } := by
  obtain ⟨patterns, colors, rfl, hpatterns, hcolors, hboth⟩ := hfirst.exists_split
  intro s hs
  -- whether a pattern is solid after the patterns of this fill, or else before them
  let solid := if (last? "patternFill" patterns).isSome then isSolid patterns else s.solid
  have hsolid : colors = [] ∨ solid = isSolid (patterns ++ colors) := by
    refine hboth.imp_right fun hsome => ?_
    rw [isSolid, last?_append, last?_eq_none hcolors, Option.none_or]
    exact if_pos hsome
  have hcolor : (if solid then (last? "fgColor" colors).bind fun e => read? (color? e) else none) =
      fillOf (patterns ++ colors) := by
    rw [fillOf, last?_append, last?_eq_none hpatterns, Option.or_none]
    obtain rfl | hsolid := hsolid
    · rw [last?_nil, Option.bind_none, ite_self, ite_self]
    · rw [hsolid]
  let begun : State := { s with fills := none :: s.fills }
  have hfront : patterns.foldlM readElement begun = .ok { begun with solid := solid } :=
    foldlM_readElement_patterns hs fun e he =>
      have hfill := hown e (List.mem_append_left _ he)
      ⟨hfill.1, hpatterns e he, hfill.2⟩
  have hback : colors.foldlM readElement { begun with solid := solid } =
      .ok { begun with solid := solid, fills := fillOf (patterns ++ colors) :: s.fills } := by
    rw [← hcolor]
    refine foldlM_readElement_colors (s := { begun with solid := solid }) hs rfl
      (fun e he => ⟨(hown e (List.mem_append_right _ he)).1, hcolors e he⟩) fun h e he => ?_
    refine hread ?_ e (List.mem_append_right _ he)
    obtain rfl | hsolid := hsolid
    · cases he
    · exact hsolid ▸ h
  refine ⟨{ begun with solid := solid, fills := fillOf (patterns ++ colors) :: s.fills }, ?_, hs,
    ⟨rfl, rfl, rfl, rfl⟩⟩
  rw [List.foldlM_cons, readElement_fill hs hname]
  change (patterns ++ colors).foldlM readElement begun = _
  rw [List.foldlM_append, hfront]
  exact hback

/-- In the section of fills, an element in no fill adds nothing unless it is a colour. -/
theorem reads_fills_stray (hname : e.localName ≠ "fill") (hcolor : e.localName ≠ "fgColor")
    (h : IsReadable .fills e) : Reads .fills [e] {} := by
  refine .of_readElement fun s hs => ?_
  by_cases hpattern : e.localName = "patternFill"
  · exact ⟨_, readElement_patternFill hs hpattern h, hs, ⟨rfl, rfl, rfl, rfl⟩⟩
  · exact ⟨s, readElement_fills hs hname hpattern hcolor, hs, .refl s⟩

/-- In the section of formats, an element in no format adds nothing unless it is an alignment. -/
theorem reads_cellFormats_stray (hname : e.localName ≠ "xf")
    (halignment : e.localName ≠ "alignment") : Reads .cellFormats [e] {} :=
  .of_readElement fun s hs => ⟨s, readElement_cellFormats hs hname halignment, hs, .refl s⟩

end

end SheetReport.StylePart
