import SheetReport.Proofs.Style.CellStyles

/-!
# Formats carried down the columns of a report

The formats of a report are written into a copy of those of the template, cell by cell, but every
cell is told by the template alone: by the first row of its column and by its own fill. A cell whose
format would be the default one has no entry. So the order of the cells does not matter, the first
row hands down what it had, and carrying the formats once more finds nothing to change.

Main statement: `base_follows_first_row`.
-/

namespace SheetReport

namespace CellFormat

/-- An entry for a format; the default format has none. -/
def stored? (f : CellFormat) : Option CellFormat := if f = {} then none else some f

/-- A format copied onto its own cell is itself. -/
theorem copiedOnto_self (f : CellFormat) : f.copiedOnto (some f) = f := rfl

/-- What was copied is copied again to the same, whether or not it has an entry. -/
theorem copiedOnto_stored? (f : CellFormat) (own : Option CellFormat) :
    f.copiedOnto (f.copiedOnto own).stored? = f.copiedOnto own := by
  unfold stored?
  split_ifs with hdefault
  · -- the copy is the default format, so it has no fill, like one onto a cell without a format
    have hfill : own.bind (·.fill) = none := congrArg CellFormat.fill hdefault
    rw [copiedOnto, copiedOnto, hfill]
    rfl
  · rfl

end CellFormat

namespace SheetFormats

variable {f : SheetFormats} {e : Extent} {first c k : Cell} {base : OrderedMap Cell CellFormat}

/-- The format of a cell after the first row was carried down to it. -/
def carriedAt? (f : SheetFormats) (first c : Cell) : Option CellFormat :=
  match f.get? (c.inRowOf first) with
  | none => f.get? c
  | some source => (source.copiedOnto (f.get? c)).stored?

/-- Without a format in the first row, a cell has its own. -/
theorem carriedAt?_of_eq_none (h : f.get? (c.inRowOf first) = none) :
    f.carriedAt? first c = f.get? c := by
  rw [carriedAt?, h]

/-- Below a format, a cell has a copy of it. -/
theorem carriedAt?_of_eq_some {source : CellFormat} (h : f.get? (c.inRowOf first) = some source) :
    f.carriedAt? first c = (source.copiedOnto (f.get? c)).stored? := by
  rw [carriedAt?, h]

/-- One cell is given its format and all others stay. -/
theorem get?_carryOne : (f.carryOne first base c).get? k =
    if k = c ∧ f.get? (c.inRowOf first) ≠ none then f.carriedAt? first c else base.get? k := by
  cases hsource : f.get? (c.inRowOf first) with
  | none => simp only [carryOne, hsource, ne_eq, not_true_eq_false, and_false, if_false]
  | some source =>
    simp only [carryOne, hsource, carriedAt?_of_eq_some hsource, CellFormat.isDefault,
      CellFormat.stored?, decide_eq_true_eq, ne_eq, reduceCtorEq, not_false_eq_true, and_true]
    by_cases hk : k = c
    · subst hk
      rw [if_pos rfl]
      split_ifs
      · exact OrderedMap.get?_erase_self base k
      · exact OrderedMap.get?_insert_self base k _
    · rw [if_neg hk]
      split_ifs
      · exact OrderedMap.get?_erase_of_ne _ hk
      · exact OrderedMap.get?_insert_of_ne _ _ hk

/-- Each of some cells is given its format, in whatever order they come. -/
theorem get?_foldl_carryOne (cells : List Cell) :
    (cells.foldl (f.carryOne first) base).get? k =
      if k ∈ cells ∧ f.get? (k.inRowOf first) ≠ none then f.carriedAt? first k
      else base.get? k := by
  induction cells generalizing base with
  | nil => simp
  | cons c rest ih =>
    rw [List.foldl_cons, ih, get?_carryOne]
    by_cases hk : k = c
    · subst hk
      simp only [List.mem_cons_self, true_and]
      split_ifs <;> simp_all
    · simp only [List.mem_cons, hk, false_and, if_false, false_or]

/-- The formats of a report are told cell by cell. -/
theorem get?_carried : (f.carried e).get? c =
    if e.contains c = true then f.carriedAt? e.first c else f.get? c := by
  rw [carried, get?_foldl_carryOne]
  simp only [Extent.mem_cells]
  by_cases hsource : f.get? (c.inRowOf e.first) = none
  · simp only [hsource, ne_eq, not_true_eq_false, and_false, if_false]
    rw [carriedAt?_of_eq_none hsource, ite_self]
    rfl
  · simp only [ne_eq, hsource, not_false_eq_true, and_true]
    rfl

/-- The first row hands its formats down to itself, without default ones. -/
theorem carriedAt?_of_row_eq (h : c.row = first.row) :
    f.carriedAt? first c = (f.get? c).bind CellFormat.stored? := by
  have hself : c.inRowOf first = c := Cell.ext h.symm rfl
  cases hformat : f.get? c with
  | none => rw [carriedAt?_of_eq_none (by rwa [hself]), hformat, Option.bind_none]
  | some format =>
    rw [carriedAt?_of_eq_some (by rwa [hself]), hformat, CellFormat.copiedOnto_self,
      Option.bind_some]

/-- Carrying the formats of a report once more changes nothing. -/
theorem carried_carried (f : SheetFormats) (e : Extent) :
    ({ f with cells := f.carried e } : SheetFormats).carried e = f.carried e := by
  refine OrderedMap.ext fun c => ?_
  rw [get?_carried]
  split_ifs with hc
  · have hfirst : e.contains (c.inRowOf e.first) = true := by
      simp only [Extent.contains, Bool.and_eq_true, decide_eq_true_eq] at hc ⊢
      simp only [Cell.inRowOf]
      omega
    have hget (k : Cell) (hk : e.contains k = true) :
        ({ f with cells := f.carried e } : SheetFormats).get? k = f.carriedAt? e.first k := by
      rw [SheetFormats.get?, get?_carried, if_pos hk]
    have hrow := hget _ hfirst
    have hsame : (c.inRowOf e.first).row = e.first.row := rfl
    rw [carriedAt?_of_row_eq hsame] at hrow
    cases hsource : f.get? (c.inRowOf e.first) with
    | none =>
      rw [hsource, Option.bind_none] at hrow
      exact carriedAt?_of_eq_none hrow
    | some source =>
      rw [hsource, Option.bind_some] at hrow
      by_cases hdefault : source = {}
      · rw [CellFormat.stored?, if_pos hdefault] at hrow
        exact carriedAt?_of_eq_none hrow
      · rw [CellFormat.stored?, if_neg hdefault] at hrow
        rw [carriedAt?_of_eq_some hrow, hget c hc, carriedAt?_of_eq_some hsource,
          CellFormat.copiedOnto_stored?]
        exact (get?_carried.trans ((if_pos hc).trans (carriedAt?_of_eq_some hsource))).symm
  · rfl

end SheetFormats

namespace StylePlan

/-- The base formats of a plan are the carried formats of its template. -/
theorem base_build (g : Grid) (o : Outcome) (rules : StyleRules) (formats : SheetFormats) :
    (build g o rules formats).base = formats.carried o.extent := by
  rw [keepsSheet_build g o rules formats]
  rfl

/-- In the base formats of a plan every cell outside the report has its own format. Inside, each
cell below a format of the first row has that format with its own fill, and no entry exactly if
this is the default format; each cell of the other columns has its own format. The first row is
what it was up to default formats, and carrying the formats again changes nothing. -/
theorem base_follows_first_row (g : Grid) (o : Outcome) (rules : StyleRules)
    (formats : SheetFormats) :
    let base := (build g o rules formats).base
    (∀ c, o.extent.contains c = false → base.get? c = formats.get? c) ∧
    (∀ c source, o.extent.contains c = true →
      formats.get? (c.inRowOf o.extent.first) = some source →
        let copy : CellFormat := { source with fill := (formats.get? c).bind (·.fill) }
        base.get? c = if copy = {} then none else some copy) ∧
    (∀ c, o.extent.contains c = true → formats.get? (c.inRowOf o.extent.first) = none →
      base.get? c = formats.get? c) ∧
    (∀ c, o.extent.contains c = true → c.row = o.extent.first.row →
      base.get? c = (formats.get? c).filter fun format => format ≠ {}) ∧
    ({ formats with cells := base } : SheetFormats).carried o.extent = base ∧
    (build g o rules { formats with cells := base }).base = base := by
  intro base
  have hbase : base = formats.carried o.extent := base_build g o rules formats
  have hcarried := SheetFormats.carried_carried formats o.extent
  rw [← hbase] at hcarried
  refine ⟨fun c hc => ?_, fun c source hc hsource => ?_, fun c hc hsource => ?_, fun c hc hrow => ?_,
    hcarried, ?_⟩
  · rw [hbase, SheetFormats.get?_carried, if_neg (by simp [hc])]
  · rw [hbase, SheetFormats.get?_carried, if_pos hc, SheetFormats.carriedAt?_of_eq_some hsource]
    rfl
  · rw [hbase, SheetFormats.get?_carried, if_pos hc, SheetFormats.carriedAt?_of_eq_none hsource]
  · rw [hbase, SheetFormats.get?_carried, if_pos hc, SheetFormats.carriedAt?_of_row_eq hrow]
    cases formats.get? c with
    | none => rfl
    | some format => simp [CellFormat.stored?, Option.filter_some]
  · rw [base_build, hcarried]

end StylePlan

end SheetReport
