import SheetReport.Proofs.Sheet.NamingInWords
import SheetReport.Proofs.Workbook.StyleSections
import SheetReport.Proofs.Xml.Attributes
import SheetReport.Workbook.WidthsInWords

/-!
# Elements of a sheet part

A column has the width of the last element that gives it one, and a cell the format of the last
element that gives it one. What an element gives is told by the element alone: a column element
gives its width to the columns of its range, which counts from one, and a cell element gives one of
the listed formats to the cell it names. An element that lacks something, or states what cannot be
read, gives nothing and takes nothing away. In machine words the same is read, and the computation
never stops, since a range begins at one at least and ends in a word.

Main statement: `widths_and_formats_by_position`.
-/

namespace SheetReport

/-- Whether the last of some elements that gives anything gives a value. -/
def IsLast {α β : Type} (gives : α → β → Prop) (l : List α) (b : β) : Prop :=
  ∃ before a after, l = before ++ a :: after ∧ gives a b ∧ ∀ a' ∈ after, ∀ b', ¬ gives a' b'

namespace IsLast

variable {α β : Type} {gives : α → β → Prop} {l rest : List α} {a : α} {b : β}

/-- The last one of what follows is the last one. -/
theorem cons (h : IsLast gives rest b) : IsLast gives (a :: rest) b := by
  obtain ⟨before, a', after, rfl, hgives, hafter⟩ := h
  exact ⟨a :: before, a', after, rfl, hgives, hafter⟩

/-- Among no elements there is no last one. -/
theorem not_nil : ¬ IsLast gives [] b := by
  rintro ⟨before, a, after, h, -⟩
  simp at h

/-- There is a last one exactly if any gives something. -/
theorem exists_iff : (∃ b, IsLast gives l b) ↔ ∃ a ∈ l, ∃ b, gives a b := by
  constructor
  · rintro ⟨b, before, a, after, rfl, hgives, -⟩
    exact ⟨a, List.mem_append_cons_self, b, hgives⟩
  · intro h
    induction l with
    | nil => simp at h
    | cons a rest ih =>
      by_cases hrest : ∃ a' ∈ rest, ∃ b, gives a' b
      · obtain ⟨b, hb⟩ := ih hrest
        exact ⟨b, hb.cons⟩
      · obtain ⟨b, hb⟩ : ∃ b, gives a b := by simpa [hrest] using h
        exact ⟨b, [], a, rest, rfl, hb, fun a' ha' b' hb' => hrest ⟨a', ha', b', hb'⟩⟩

/-- The last one is among what follows the first one, or the first one if nothing gives anything
after it. -/
theorem cons_iff : IsLast gives (a :: rest) b ↔
    IsLast gives rest b ∨ (∀ b', ¬ IsLast gives rest b') ∧ gives a b := by
  constructor
  · rintro ⟨before, a', after, heq, hgives, hafter⟩
    cases before with
    | nil =>
      obtain ⟨rfl, rfl⟩ := List.cons.inj heq
      refine .inr ⟨fun b' hb' => ?_, hgives⟩
      obtain ⟨a', ha', b'', hb''⟩ := exists_iff.mp ⟨b', hb'⟩
      exact hafter a' ha' b'' hb''
    | cons first before =>
      obtain ⟨rfl, rfl⟩ := List.cons.inj heq
      exact .inl ⟨before, a', after, rfl, hgives, hafter⟩
  · rintro (h | ⟨hnone, hgives⟩)
    · exact h.cons
    · exact ⟨[], a, rest, rfl, hgives, fun a' ha' b' hb' =>
        (exists_iff.mpr ⟨a', ha', b', hb'⟩).elim hnone⟩

end IsLast

namespace OrderedMap

variable {κ ν : Type} [Ord κ] {m m' m'' : OrderedMap κ ν} {gives later : κ → ν → Prop}

/-- Whether a map has the values that are given, and under all other keys those of the map before.
-/
def IsUpdate (gives : κ → ν → Prop) (m m' : OrderedMap κ ν) : Prop :=
  ∀ k v, m'.get? k = some v ↔ gives k v ∨ (∀ v', ¬ gives k v') ∧ m.get? k = some v

/-- Where nothing is given, the map stays. -/
theorem isUpdate_self (h : ∀ k v, ¬ gives k v) : IsUpdate gives m m := by
  intro k v
  simp [h]

/-- A value that is inserted is given to its key. -/
theorem isUpdate_insert [Std.TransOrd κ] [Std.LawfulEqOrd κ] {key : κ} {value : ν}
    (h : ∀ k v, gives k v ↔ k = key ∧ v = value) : IsUpdate gives m (m.insert key value) := by
  intro k v
  by_cases hkey : k = key
  · simp [h, hkey, eq_comm]
  · simp [h, hkey, get?_insert_of_ne]

/-- What is given later counts before what was given first. -/
theorem IsUpdate.trans (h : IsUpdate gives m m') (hlater : IsUpdate later m' m'') :
    IsUpdate (fun k v => later k v ∨ (∀ v', ¬ later k v') ∧ gives k v) m m'' := by
  intro k v
  rw [hlater k v, h k v]
  by_cases hnone : ∀ v', ¬ later k v'
  · simp [hnone]
  · simp only [hnone, false_and, or_false]

end OrderedMap

namespace SheetPart

open Xml (Element Event Fault elements)

/-- Whether an element gives a width to a column, counted from zero: a column element that affirms a
custom width and states a width and a range. The ends of the range fit 16 bits, it counts from one,
and it begins at one if it is to begin at zero. -/
structure GivesWidth (e : Element) (col : Nat) (width : Float) : Prop where
  isColumn : e.localName = "col"
  isCustom : e.Affirms "customWidth"
  hasWidth : ∃ text, e.stated? "width" = some text ∧
    Number.float? (Text.trim text.toList) = some width
  inRange : ∃ low high, e.StatesNumber (2 ^ 16) "min" low ∧ e.StatesNumber (2 ^ 16) "max" high ∧
    max low 1 ≤ col + 1 ∧ col + 1 ≤ high

/-- Whether an element gives a format to a cell: a cell element that names the cell and states the
index of a format that is not the default one. -/
structure GivesFormat (formats : List CellFormat) (e : Element) (c : Cell) (format : CellFormat) :
    Prop where
  isCell : e.localName = "c"
  names : ∃ text, e.stated? "r" = some text ∧ Cell.Names text c
  listed : ∃ index, e.StatesNumber (2 ^ 64) "s" index ∧ formats[index]? = some format
  notDefault : format.isDefault = false

variable {formats : List CellFormat} {f : SheetFormats} {e : Element} {es : List Element}
  {events : List Event} {text : String}

/-! ### One element -/

section

variable {first count col : Nat} {width : Float} {widths : OrderedMap Nat Float}

/-- The columns of a range have its width, and all others keep theirs. -/
theorem get?_setWidths : (setWidths first width count widths).get? col =
    if first ≤ col ∧ col < first + count then some width else widths.get? col := by
  induction count generalizing widths with
  | zero =>
    rw [setWidths, if_neg (by omega)]
  | succ count ih =>
    rw [setWidths, ih]
    by_cases hlast : col = first + count
    · rw [hlast, OrderedMap.get?_insert_self, if_neg (by omega), if_pos (by omega)]
    · rw [OrderedMap.get?_insert_of_ne _ _ hlast]
      congr 1
      exact propext (by omega)

/-- A range that is counted from one gives its width to its columns. -/
theorem isUpdate_setWidths {gives : Nat → Float → Prop} {last : Nat} (hfirst : 1 ≤ first)
    (h : ∀ k v, gives k v ↔ width = v ∧ first ≤ k + 1 ∧ k + 1 ≤ last) :
    OrderedMap.IsUpdate gives widths (setWidths (first - 1) width (last + 1 - first) widths) := by
  intro k v
  have hrange : first - 1 ≤ k ∧ k < first - 1 + (last + 1 - first) ↔
      first ≤ k + 1 ∧ k + 1 ≤ last := by omega
  rw [get?_setWidths, if_congr hrange rfl rfl]
  by_cases hin : first ≤ k + 1 ∧ k + 1 ≤ last
  · simp [h, hin]
  · simp only [h, hin, and_false, if_false, false_or, not_false_iff, implies_true, true_and]

end

/-- A width is given by what is read of an element. -/
theorem givesWidth_iff (hname : e.localName = "col") (col : Nat) (width : Float) :
    GivesWidth e col width ↔
    e.Affirms "customWidth" ∧
    ((e.stated? "width").bind fun text => Number.float? (Text.trim text.toList)) = some width ∧
    ∃ low high,
      ((e.stated? "min").bind fun text => Number.nat? columnLimit (Text.trim text.toList)) =
        some low ∧
      ((e.stated? "max").bind fun text => Number.nat? columnLimit (Text.trim text.toList)) =
        some high ∧ max low 1 ≤ col + 1 ∧ col + 1 ≤ high := by
  have hlimit : columnLimit = 2 ^ 16 := rfl
  simp only [hlimit, ← Element.statesNumber_iff]
  constructor
  · exact fun h => ⟨h.isCustom, Option.bind_eq_some_iff.mpr h.hasWidth, h.inRange⟩
  · rintro ⟨hcustom, hwidth, hrange⟩
    exact ⟨hname, hcustom, Option.bind_eq_some_iff.mp hwidth, hrange⟩

/-- A format is given by what is read of an element. -/
theorem givesFormat_iff (hname : e.localName = "c") (c : Cell) (format : CellFormat) :
    GivesFormat formats e c format ↔
    (e.stated? "r").bind Cell.ofName? = some c ∧
    (((e.stated? "s").bind fun text =>
      Number.nat? 18446744073709551616 (Text.trim text.toList)).bind fun i => formats[i]?) =
        some format ∧ format.isDefault = false := by
  have hlimit : 18446744073709551616 = 2 ^ 64 := rfl
  rw [hlimit, Option.bind_eq_some_iff, Option.bind_eq_some_iff]
  simp only [← Element.statesNumber_iff, Cell.ofName?_eq_some_iff_names]
  constructor
  · exact fun h => ⟨h.names, h.listed, h.notDefault⟩
  · rintro ⟨hnames, hlisted, hdefault⟩
    exact ⟨hname, hnames, hlisted, hdefault⟩

/-- A column element gives its width to the columns of its range. -/
theorem exists_readColumns_eq (h : e.IsWellFormed) (hname : e.localName = "col")
    (f : SheetFormats) :
    ∃ widths, readColumns f e = .ok { f with widths := widths } ∧
      OrderedMap.IsUpdate (GivesWidth e) f.widths widths := by
  obtain ⟨isSet, hflag, hset⟩ := Element.exists_flag_eq h "customWidth"
  have hgives := givesWidth_iff hname
  rw [← hset] at hgives
  unfold readColumns
  rw [hflag, Element.parsed?_eq h, Element.parsed?_eq h, Element.parsed?_eq h]
  generalize (e.stated? "min").bind _ = low at hgives ⊢
  generalize (e.stated? "max").bind _ = high at hgives ⊢
  generalize (e.stated? "width").bind _ = width at hgives ⊢
  cases isSet with
  | false => exact ⟨f.widths, rfl, OrderedMap.isUpdate_self fun k v hv => by simp [hgives] at hv⟩
  | true =>
    match low, high, width with
    | some low, some high, some width =>
      exact ⟨_, rfl, isUpdate_setWidths (Nat.le_max_right _ _) fun k v => by simp [hgives]⟩
    | none, _, _ | some _, none, _ | some _, some _, none =>
      exact ⟨f.widths, rfl, OrderedMap.isUpdate_self fun k v hv => by simp [hgives] at hv⟩

/-- A cell element gives its format to the cell it names. -/
theorem exists_readCell_eq (h : e.IsWellFormed) (hname : e.localName = "c") (f : SheetFormats) :
    ∃ cells, readCell formats f e = .ok { f with cells := cells } ∧
      OrderedMap.IsUpdate (GivesFormat formats e) f.cells cells := by
  have hgives : ∀ c format, GivesFormat formats e c format ↔ _ := givesFormat_iff hname
  unfold readCell
  rw [Element.attribute?_eq h, Element.parsed?_eq h]
  simp only [bind, Except.bind]
  generalize (e.stated? "r").bind _ = cell at hgives ⊢
  generalize ((e.stated? "s").bind _).bind (fun i : Nat => formats[i]?) = format at hgives ⊢
  match cell, format with
  | some cell, some format =>
    dsimp only
    split
    case isTrue hdefault =>
      refine ⟨f.cells, rfl, OrderedMap.isUpdate_self fun c s hs => ?_⟩
      obtain ⟨-, hformat, hs⟩ := (hgives c s).mp hs
      obtain rfl := Option.some.inj hformat
      exact Bool.false_ne_true (hs.symm.trans hdefault)
    case isFalse hdefault =>
      refine ⟨_, rfl, OrderedMap.isUpdate_insert fun c s => ?_⟩
      rw [hgives, Option.some.injEq, Option.some.injEq]
      constructor
      · exact fun ⟨hcell, hformat, _⟩ => ⟨hcell.symm, hformat.symm⟩
      · rintro ⟨rfl, rfl⟩
        exact ⟨rfl, rfl, Bool.eq_false_iff.mpr hdefault⟩
  | none, _ | some _, none =>
    exact ⟨f.cells, rfl, OrderedMap.isUpdate_self fun c s hs => by simp [hgives] at hs⟩

/-- An element gives widths and formats, and what it does not give stays as it was. -/
theorem exists_readElement_eq (h : e.IsWellFormed) (formats : List CellFormat)
    (f : SheetFormats) :
    ∃ f', readElement formats f e = .ok f' ∧
      OrderedMap.IsUpdate (GivesWidth e) f.widths f'.widths ∧
      OrderedMap.IsUpdate (GivesFormat formats e) f.cells f'.cells := by
  unfold readElement
  split
  case h_1 hname =>
    obtain ⟨widths, hread, hwidths⟩ := exists_readColumns_eq h hname f
    refine ⟨_, hread, hwidths, OrderedMap.isUpdate_self fun c s hs => ?_⟩
    exact absurd (hname.symm.trans hs.isCell) (by decide)
  case h_2 hname =>
    obtain ⟨cells, hread, hcells⟩ := exists_readCell_eq h hname f
    refine ⟨_, hread, OrderedMap.isUpdate_self fun k w hw => ?_, hcells⟩
    exact absurd (hname.symm.trans hw.isColumn) (by decide)
  case h_3 hcol hc =>
    exact ⟨f, rfl, OrderedMap.isUpdate_self fun k w hw => hcol hw.isColumn,
      OrderedMap.isUpdate_self fun c s hs => hc hs.isCell⟩

/-! ### All elements -/

/-- What the last of some elements gives is there after all of them. -/
theorem exists_foldlM_readElement_eq (h : ∀ e ∈ es, e.IsWellFormed) (formats : List CellFormat)
    (f : SheetFormats) :
    ∃ f', es.foldlM (readElement formats) f = .ok f' ∧
      OrderedMap.IsUpdate (fun k w => IsLast (GivesWidth · k ·) es w) f.widths f'.widths ∧
      OrderedMap.IsUpdate (fun c s => IsLast (GivesFormat formats · c ·) es s) f.cells f'.cells := by
  induction es generalizing f with
  | nil =>
    exact ⟨f, rfl, OrderedMap.isUpdate_self fun _ _ => IsLast.not_nil,
      OrderedMap.isUpdate_self fun _ _ => IsLast.not_nil⟩
  | cons e rest ih =>
    obtain ⟨he, hrest⟩ := List.forall_mem_cons.mp h
    obtain ⟨f₁, hread, hwidths, hcells⟩ := exists_readElement_eq he formats f
    obtain ⟨f', hrun, hlaterWidths, hlaterCells⟩ := ih hrest f₁
    refine ⟨f', ?_, ?_, ?_⟩
    · rw [List.foldlM_cons, hread]
      exact hrun
    · simpa only [IsLast.cons_iff] using hwidths.trans hlaterWidths
    · simpa only [IsLast.cons_iff] using hcells.trans hlaterCells

/-- Only the elements of a part count. -/
theorem foldlM_step_eq (f : SheetFormats) :
    events.foldlM (step formats) f = (elements events).foldlM (readElement formats) f := by
  induction events generalizing f with
  | nil => rfl
  | cons event rest ih =>
    cases event with
    | start e | empty e => exact bind_congr fun f' => ih f'
    | stop name => exact ih f

/-! ### In words -/

section

variable {width : Float} {last col : BitVec 16} {widths : OrderedMap Nat Float}

/-- The first column of a range may be set first. -/
theorem setWidths_succ (first count : Nat) : setWidths first width (count + 1) widths =
    setWidths (first + 1) width count (widths.insert first width) := by
  refine OrderedMap.ext fun k => ?_
  rw [get?_setWidths, get?_setWidths]
  by_cases hk : k = first
  · rw [hk, OrderedMap.get?_insert_self, if_pos (by omega), if_neg (by omega)]
  · rw [OrderedMap.get?_insert_of_ne _ _ hk]
    exact if_congr (by omega) rfl rfl

/-- From one on, columns are set in words without a stop. -/
theorem setWidthsInWords_eq (hcol : 1 ≤ col.toNat) :
    setWidthsInWords width last col widths =
      .ok (setWidths (col.toNat - 1) width (last.toNat + 1 - col.toNat) widths) := by
  fun_induction setWidthsInWords width last col widths with
  | case1 col widths hpast =>
    have hlt : last.toNat < col.toNat := hpast
    rw [Nat.sub_eq_zero_of_le hlt, setWidths]
  | case2 col widths hpast overflow hstop =>
    obtain ⟨index, hindex, -⟩ := Word.exists_sub_eq_ok (b := 1#16) hcol
    cases hindex.symm.trans hstop
  | case3 col widths hpast index hindex hlast overflow hstop =>
    have hlt : col.toNat < last.toNat := hlast
    obtain ⟨next, hnext, -⟩ := Word.exists_add_eq_ok (w := 16) (a := col) (b := 1#16)
      (Nat.lt_of_le_of_lt hlt last.isLt)
    cases hnext.symm.trans hstop
  | case4 col widths hpast index hindex later hlast next hnext hless ih =>
    have hlt : col.toNat < last.toNat := hlast
    have hvalue : index.toNat = col.toNat - 1 :=
      Nat.eq_sub_of_add_eq (Word.toNat_of_sub_eq_ok hindex)
    have hsucc : next.toNat = col.toNat + 1 := Word.toNat_of_add_eq_ok hnext
    have hfirst : col.toNat - 1 + 1 = next.toNat - 1 := by omega
    have hcount : last.toNat + 1 - col.toNat = last.toNat + 1 - next.toNat + 1 := by omega
    rw [ih (by omega), hcount, setWidths_succ, hfirst, ← hvalue]
  | case5 col widths hpast index hindex later hlast =>
    have hle : ¬ last.toNat < col.toNat := hpast
    have hge : ¬ col.toNat < last.toNat := hlast
    have hvalue : index.toNat = col.toNat - 1 :=
      Nat.eq_sub_of_add_eq (Word.toNat_of_sub_eq_ok hindex)
    have hcount : last.toNat + 1 - col.toNat = 1 := by omega
    rw [hcount, setWidths, setWidths, Nat.add_zero, ← hvalue]

/-- Setting the widths of a range in words never stops. -/
theorem setRangeInWords_eq {low high : Nat} (hlow : low < 2 ^ 16) (hhigh : high < 2 ^ 16) :
    setRangeInWords width (.ofNat 16 low) (.ofNat 16 high) widths =
      .ok (setWidths (max low 1 - 1) width (high + 1 - max low 1) widths) := by
  have hlowValue : (BitVec.ofNat 16 low).toNat = low := by
    rw [BitVec.toNat_ofNat, Nat.mod_eq_of_lt hlow]
  have hhighValue : (BitVec.ofNat 16 high).toNat = high := by
    rw [BitVec.toNat_ofNat, Nat.mod_eq_of_lt hhigh]
  have hfirst : (if BitVec.ofNat 16 low < 1#16 then 1#16 else .ofNat 16 low).toNat = max low 1 := by
    have hlt : BitVec.ofNat 16 low < 1#16 ↔ low < 1 := by
      rw [BitVec.lt_def, hlowValue]
      rfl
    split
    case isTrue h => exact (Nat.max_eq_right (Nat.le_of_lt (hlt.mp h))).symm
    case isFalse h =>
      rw [hlowValue]
      exact (Nat.max_eq_left (Nat.not_lt.mp (mt hlt.mpr h))).symm
  have hpos : 1 ≤ max low 1 := Nat.le_max_right low 1
  rw [setRangeInWords, setWidthsInWords_eq (hfirst ▸ hpos), hfirst, hhighValue]

end

/-- The number of a column fits 16 bits. -/
theorem lt_of_parsed? {name : String} {n : Nat}
    (h : e.parsed? name (Number.nat? columnLimit) = .ok (some n)) : n < 2 ^ 16 := by
  unfold Element.parsed? at h
  cases hvalue : e.attribute? name with
  | error fault =>
    rw [hvalue] at h
    contradiction
  | ok value =>
    rw [hvalue] at h
    obtain ⟨text, -, hread⟩ := Option.bind_eq_some_iff.mp (Except.ok.inj h)
    obtain ⟨-, -, -, -, hlt⟩ := Number.nat?_eq_some_iff.mp hread
    exact hlt

/-- The widths of columns are read in words as they are without. -/
theorem readColumnsInWords_eq (f : SheetFormats) (e : Element) :
    (readColumnsInWords f e).run = .ok (readColumns f e) := by
  unfold readColumnsInWords readColumns
  cases e.flag "customWidth" false with
  | error fault => rfl
  | ok isSet =>
    cases isSet with
    | false => rfl
    | true =>
      cases hlow : e.parsed? "min" (Number.nat? columnLimit) with
      | error fault => rfl
      | ok low =>
        cases hhigh : e.parsed? "max" (Number.nat? columnLimit) with
        | error fault => rfl
        | ok high =>
          cases e.parsed? "width" Number.float? with
          | error fault => rfl
          | ok width =>
            match low, high, width with
            | some low, some high, some width =>
              change (liftM (setRangeInWords width (.ofNat 16 low) (.ofNat 16 high) f.widths) >>=
                fun widths => pure { f with widths := widths } :
                  ExceptT Fault (Except Overflow) SheetFormats).run = _
              rw [setRangeInWords_eq (lt_of_parsed? hlow) (lt_of_parsed? hhigh)]
              rfl
            | none, _, _ | some _, none, _ | some _, some _, none => rfl

/-- An event is read in words as it is without. -/
theorem stepInWords_eq (formats : List CellFormat) (f : SheetFormats) (event : Event) :
    (stepInWords formats f event).run = .ok (step formats f event) := by
  have helement (e : Element) :
      (readElementInWords formats f e).run = .ok (readElement formats f e) := by
    unfold readElementInWords
    split
    case h_1 hname =>
      have hcolumn : readElement formats f e = readColumns f e := by simp [readElement, hname]
      rw [hcolumn, readColumnsInWords_eq]
    case h_2 => rfl
  cases event with
  | start e | empty e => exact helement e
  | stop name => rfl

/-- Events are read in words as they are without. -/
theorem readEventsInWords_eq (formats : List CellFormat) (f : SheetFormats)
    (events : List (Except Fault Event)) :
    (readEventsInWords formats f events).run = .ok (Xml.foldEvents (step formats) f events) := by
  induction events generalizing f with
  | nil => rfl
  | cons event rest ih =>
    cases event with
    | error fault => rfl
    | ok event =>
      have hstep : stepInWords formats f event = .mk (.ok (step formats f event)) :=
        stepInWords_eq formats f event
      change (stepInWords formats f event >>= fun f => readEventsInWords formats f rest).run = _
      rw [hstep, Xml.foldEvents]
      cases step formats f event with
      | error fault => rfl
      | ok f' => exact ih f'

/-- The formats of a sheet part are read in words as they are without. -/
theorem sheetFormatsInWords_eq (formats : List CellFormat) (text : String) :
    sheetFormatsInWords formats text = .ok (sheetFormats formats text) :=
  readEventsInWords_eq formats {} (Xml.events text)

/-- A sheet part without a fault gives a column a width if and only if an element does, and then the
last such element counts; and so for the formats of cells. In words the same is read, and no number
of a column leaves its word. -/
theorem widths_and_formats_by_position (hevents : Xml.events text = events.map .ok)
    (helements : ∀ e ∈ elements events, e.IsWellFormed) (formats : List CellFormat) :
    ∃ f, sheetFormats formats text = .ok f ∧
      (∀ k w, f.widths.get? k = some w ↔ IsLast (GivesWidth · k ·) (elements events) w) ∧
      (∀ k, (∃ w, f.widths.get? k = some w) ↔ ∃ e ∈ elements events, ∃ w, GivesWidth e k w) ∧
      (∀ c s, f.cells.get? c = some s ↔ IsLast (GivesFormat formats · c ·) (elements events) s) ∧
      (∀ c, (∃ s, f.cells.get? c = some s) ↔
        ∃ e ∈ elements events, ∃ s, GivesFormat formats e c s) ∧
      sheetFormatsInWords formats text = .ok (.ok f) := by
  obtain ⟨f, hrun, hwidths, hcells⟩ := exists_foldlM_readElement_eq helements formats {}
  have hread : sheetFormats formats text = .ok f := by
    rw [sheetFormats, ofEvents, hevents, Xml.foldEvents_map_ok, foldlM_step_eq, hrun]
  have hwidth (k : Nat) (w : Float) :
      f.widths.get? k = some w ↔ IsLast (GivesWidth · k ·) (elements events) w := by
    rw [hwidths k w]
    simp
  have hformat (c : Cell) (s : CellFormat) :
      f.cells.get? c = some s ↔ IsLast (GivesFormat formats · c ·) (elements events) s := by
    rw [hcells c s]
    simp
  refine ⟨f, hread, hwidth, fun k => ?_, hformat, fun c => ?_, ?_⟩
  · simp only [hwidth, IsLast.exists_iff]
  · simp only [hformat, IsLast.exists_iff]
  · rw [sheetFormatsInWords_eq, hread]

namespace OverridingPart

open StylePart (tag)

/-- The column that overrides others. -/
def wideColumns : Element := tag "col min=\"0\" max=\"2\" width=\"12.5\" customWidth=\"1\""

/-- The elements before the overriding columns: three columns and the last one of the sheet, and
ranges that are empty, too long or without a custom width. -/
def before : List Event :=
  [.start (tag "worksheet"), .start (tag "cols"),
    .empty (tag "col min=\"1\" max=\"3\" width=\"10\" customWidth=\"true\""),
    .empty (tag "col min=\"65535\" max=\"65535\" width=\"20\" customWidth=\"1\""),
    .empty (tag "col min=\"0\" max=\"0\" width=\"9\" customWidth=\"1\""),
    .empty (tag "col min=\"9\" max=\"8\" width=\"9\" customWidth=\"1\""),
    .empty (tag "col min=\"4\" max=\"65536\" width=\"9\" customWidth=\"1\""),
    .empty (tag "col min=\"5\" max=\"5\" width=\"9\"")]

/-- Cells after the columns: one is given a format twice and then the default one, and one is given
a format that is not listed. -/
def after : List Event :=
  [.stop "cols".toList, .start (tag "sheetData"),
    .start (tag "c r=\"B3\" s=\"1\""), .stop "c".toList, .empty (tag "c r=\"B3\" s=\"2\""),
    .empty (tag "c r=\"B3\" s=\"0\""), .empty (tag "c r=\"C3\" s=\"3\""),
    .stop "sheetData".toList, .stop "worksheet".toList]

/-- A part whose elements override one another. -/
def part : List Event := before ++ .empty wideColumns :: after

/-- The default format, a fill and a wrapped text. -/
def listed : List CellFormat := [{}, { fill := some 0x00ff00 }, { wrap := true }]

/-- The text of the part. -/
def partText : String := String.ofList (part.flatMap StylePart.written)

end OverridingPart

open OverridingPart (wideColumns before after part listed partText)

/-- The overriding columns count for the first two columns, and the last column of a sheet has a
width as well. The cell has the last format that is not the default one. -/
theorem overridingPart_widths_and_formats_by_position :
    Xml.events partText = part.map .ok ∧ (∀ e ∈ elements part, e.IsWellFormed) ∧
      ∃ f, sheetFormats listed partText = .ok f ∧ f.widths.keys = [0, 1, 2, 65534] ∧
        (∃ w, Number.float? ['1', '2', '.', '5'] = some w ∧ f.widths.get? 1 = some w) ∧
        f.cells.entries = [(⟨2, 1, by decide, by decide⟩, { wrap := true })] ∧
        sheetFormatsInWords listed partText = .ok (.ok f) := by
  have hevents : Xml.events partText =
      Xml.eventsFrom true ((part.flatMap StylePart.written).length + 1) []
        (part.flatMap StylePart.written) := by
    rw [Xml.events, partText, String.toList_ofList]
  have hread : Xml.eventsFrom true ((part.flatMap StylePart.written).length + 1) []
      (part.flatMap StylePart.written) = part.map .ok ∧ (∀ e ∈ elements part, e.IsWellFormed) := by
    decide +kernel
  rw [hread.1] at hevents
  have hkeys : (sheetFormats listed partText).map (fun f => (f.widths.keys, f.cells.entries)) =
      .ok ([0, 1, 2, 65534], [(⟨2, 1, by decide, by decide⟩, { wrap := true })]) := by
    rw [sheetFormats, hevents]
    decide +kernel
  obtain ⟨f, hf, hwidths, -, -, -, hwords⟩ :=
    widths_and_formats_by_position hevents hread.2 listed
  rw [hf] at hkeys
  obtain ⟨hcolumns, hcells⟩ := Prod.mk.inj (Except.ok.inj hkeys)
  obtain ⟨w, hw⟩ : ∃ w, Number.float? ['1', '2', '.', '5'] = some w :=
    Option.isSome_iff_exists.mp (by decide +kernel)
  refine ⟨hevents, hread.2, f, hf, hcolumns, ⟨w, hw, ?_⟩, hcells, hwords⟩
  have hgives : GivesWidth wideColumns 1 w := {
    isColumn := by decide
    isCustom := ⟨"1", by decide, by decide⟩
    hasWidth := ⟨"12.5", by decide, hw⟩
    inRange := ⟨0, 2, Element.statesNumber_iff.mpr (by decide),
      Element.statesNumber_iff.mpr (by decide), by decide⟩ }
  have hafter : ∀ e ∈ elements after, e.localName ≠ "col" := by decide
  exact (hwidths 1 w).mpr ⟨elements before, wideColumns, elements after, rfl, hgives,
    fun e he _ h => hafter e he h.isColumn⟩

end SheetPart

end SheetReport
