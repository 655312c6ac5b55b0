import SheetReport.Proofs.Report.Coverage

/-!
# What the aggregate cells of a report hold

Each subtotal row and the total row has one cell in every column, and resolving puts there what
the kind of the column asks for: a sum, a ratio or a label.

Main statements: `Marked.get_subtotal_count`, `Marked.get_total_count`, and their siblings for
ratios and labels.
-/

namespace SheetReport

/-- Whether a cell divides the cell to its left by the one left of that. -/
def Grid.ShowsRatio (g : Grid) (c : Cell) : Prop :=
  ∃ numerator denominator : Cell,
    numerator.row = c.row ∧ numerator.col + 1 = c.col ∧
      denominator.row = c.row ∧ denominator.col + 2 = c.col ∧
        g.get c = .formula ("=" ++ numerator.name ++ "/" ++ denominator.name)

/-- Whether a cell sums a range, given by its first and its last cell. -/
def Grid.ShowsSum (g : Grid) (c : Cell) (range : Extent) : Prop :=
  g.get c = .formula ("=SUM(" ++ range.first.name ++ ":" ++ range.last.name ++ ")")

/-- Whether a cell adds cells: it names them one after another, and it is zero if there are none. -/
structure Grid.ShowsAddition (g : Grid) (c : Cell) (terms : List Cell) : Prop where
  zero : terms = [] → g.get c = .formula "=0"
  sum : terms ≠ [] → g.get c = .formula ("=" ++ "+".intercalate (terms.map Cell.name))

namespace Resolution

/-- The formula that adds cells names them. -/
theorem showsAddition_of_get {g : Grid} {c : Cell} {terms : List Cell}
    (h : g.get c = addFormula terms) : g.ShowsAddition c terms where
  zero hnil := by rw [h, hnil]; rfl
  sum hne := by rw [h, addFormula, if_neg (by simpa using hne)]

/-- The formula of a ratio names the two cells to the left. -/
theorem ratioFormula_eq_ok_iff {c : Cell} {v : Value} :
    ratioFormula c = .ok v ↔
      ∃ numerator denominator : Cell,
        numerator.row = c.row ∧ numerator.col + 1 = c.col ∧
          denominator.row = c.row ∧ denominator.col + 2 = c.col ∧
            v = .formula ("=" ++ numerator.name ++ "/" ++ denominator.name) := by
  simp only [ratioFormula, bind_eq_ok_iff, Cell.locate_eq_ok_iff, Except.ok.injEq]
  constructor
  · intro hex
    obtain ⟨numerator, hnumerator, denominator, hdenominator, rfl⟩ := hex
    exact ⟨numerator, denominator, by omega, by omega, by omega, by omega, rfl⟩
  · intro hex
    obtain ⟨numerator, denominator, hrow, hcol, hrow', hcol', rfl⟩ := hex
    exact ⟨numerator, by omega, denominator, by omega, rfl⟩

/-- A ratio needs two columns to its left. -/
theorem exists_ratioFormula_iff {c : Cell} : (∃ v, ratioFormula c = .ok v) ↔ 2 ≤ c.col := by
  have hrow := c.row_lt
  have hcol := c.col_lt
  simp only [ratioFormula_eq_ok_iff]
  constructor
  · intro hex
    obtain ⟨v, numerator, denominator, -, -, -, hdenominator, -⟩ := hex
    omega
  · intro hle
    let numerator : Cell := ⟨c.row, c.col - 1, hrow, by omega⟩
    let denominator : Cell := ⟨c.row, c.col - 2, hrow, by omega⟩
    exact ⟨_, numerator, denominator, rfl, Nat.sub_add_cancel (by omega), rfl,
      Nat.sub_add_cancel hle, rfl⟩

/-- A ratio without two columns to its left is out of bounds. -/
theorem eq_outOfBounds_of_ratioFormula {c : Cell} {error : ReportError}
    (h : ratioFormula c = .error error) :
    ∃ anchor down right, error = .outOfBounds anchor down right := by
  simp only [ratioFormula, bind_eq_error_iff, reduceCtorEq, and_false, exists_false,
    or_false] at h
  rcases h with h | ⟨_, -, h⟩
  · exact ⟨_, _, _, Cell.eq_outOfBounds_of_locate h⟩
  · exact ⟨_, _, _, Cell.eq_outOfBounds_of_locate h⟩

/-- A ratio is a formula. -/
theorem eq_formula_of_ratioFormula {c : Cell} {v : Value} (h : ratioFormula c = .ok v) :
    ∃ s, v = .formula s := by
  obtain ⟨_, _, -, -, -, -, rfl⟩ := ratioFormula_eq_ok_iff.mp h
  exact ⟨_, rfl⟩

/-- A total is replaced by a formula or by its label. -/
theorem snd_of_totalValue? {g : Grid} {extent : Extent} {kinds : ColumnKinds}
    {subtotals : List Subtotal} {t : Total} {w : Cell × Value}
    (h : totalValue? g extent kinds subtotals t = .ok (some w)) :
    (∃ s, w.2 = .formula s) ∨ w.2 = .text kinds.totalLabel := by
  unfold totalValue? plainTotal? at h
  cases hkind : t.kind <;> simp only [hkind, Except.ok.injEq, Option.some.injEq, reduceCtorEq] at h
  · obtain ⟨v, hv, heq⟩ := map_eq_ok_iff.mp h
    rw [← Option.some.inj heq]
    exact .inl (eq_formula_of_ratioFormula hv)
  · rw [← h, addFormula]
    split
    · exact .inl ⟨_, rfl⟩
    · exact .inl ⟨_, rfl⟩
  · rw [← h]
    exact .inr rfl

/-- A subtotal is replaced by a formula or by its label. -/
theorem snd_of_subtotalValue? {kinds : ColumnKinds} {s : Subtotal} {w : Cell × Value}
    (h : subtotalValue? kinds s = .ok (some w)) :
    (∃ s, w.2 = .formula s) ∨ w.2 = .text kinds.subtotalLabel := by
  unfold subtotalValue? sumFormula at h
  cases hkind : s.kind <;> simp only [hkind, Except.ok.injEq, Option.some.injEq, reduceCtorEq] at h
  · obtain ⟨v, hv, heq⟩ := map_eq_ok_iff.mp h
    rw [← Option.some.inj heq]
    exact .inl (eq_formula_of_ratioFormula hv)
  · obtain ⟨v, hv, heq⟩ := map_eq_ok_iff.mp h
    obtain ⟨range, -, rfl⟩ := map_eq_ok_iff.mp hv
    rw [← Option.some.inj heq]
    exact .inl ⟨_, rfl⟩
  · rw [← h]
    exact .inr rfl

namespace Resolved

variable {g g' : Grid} {extent : Extent} {kinds : ColumnKinds} {r : Resolution}

/-- What is written is a formula or a label. -/
theorem snd_of_mem_writes (h : Resolved g extent kinds g' r) {w : Cell × Value}
    (hw : w ∈ r.writes) :
    (∃ s, w.2 = .formula s) ∨ w.2 = .text kinds.subtotalLabel ∨ w.2 = .text kinds.totalLabel := by
  rcases h.mem_writes.mp hw with ⟨t, -, hvalue⟩ | ⟨s, -, hvalue⟩
  · rcases snd_of_totalValue? hvalue with hformula | hlabel
    · exact .inl hformula
    · exact .inr (.inr hlabel)
  · rcases snd_of_subtotalValue? hvalue with hformula | hlabel
    · exact .inl hformula
    · exact .inr (.inl hlabel)

/-- Resolving leaves a cell as it is or puts a formula or a label there. -/
theorem get_cases (h : Resolved g extent kinds g' r) (c : Cell) :
    g'.get c = g.get c ∨ (∃ s, g'.get c = .formula s) ∨
      g'.get c = .text kinds.subtotalLabel ∨ g'.get c = .text kinds.totalLabel := by
  rw [h.grid]
  rcases Grid.get_setAll_cases g r.writes c with hkeep | ⟨w, hw, hget⟩
  · exact .inl hkeep
  · rw [hget]
    exact .inr (h.snd_of_mem_writes hw)

/-- The value of a subtotal stands in its cell. -/
theorem get_eq_of_subtotalValue? (h : Resolved g extent kinds g' r) {s : Subtotal}
    (hs : s ∈ r.subtotals) {v : Value} (hv : subtotalValue? kinds s = .ok (some (s.cell, v))) :
    g'.get s.cell = v := by
  obtain ⟨w, hw, hget⟩ := h.get_subtotal hs
  obtain rfl := Except.ok.inj (hw.symm.trans hv)
  exact hget

/-- The value of a total stands in its cell. -/
theorem get_eq_of_totalValue? (h : Resolved g extent kinds g' r) {t : Total}
    (ht : t ∈ r.totals) {v : Value}
    (hv : totalValue? g extent kinds r.subtotals t = .ok (some (t.cell, v))) :
    g'.get t.cell = v := by
  obtain ⟨w, hw, hget⟩ := h.get_total ht
  obtain rfl := Except.ok.inj (hw.symm.trans hv)
  exact hget

/-- The cell of a counted total adds the cells of the total. -/
theorem showsAddition_of_total (h : Resolved g extent kinds g' r) {t : Total} (ht : t ∈ r.totals)
    (hkind : t.kind = .count) :
    g'.ShowsAddition t.cell (totalTerms g extent r.subtotals t.cell) := by
  refine showsAddition_of_get (h.get_eq_of_totalValue? ht ?_)
  simp only [totalValue?, hkind]

/-- The cell of a subtotal in a ratio column divides the cells to its left. -/
theorem showsRatio_of_subtotal (h : Resolved g extent kinds g' r) {s : Subtotal}
    (hs : s ∈ r.subtotals) (hkind : s.kind = .ratio) : g'.ShowsRatio s.cell := by
  obtain ⟨w, hw⟩ := h.exists_subtotal s hs
  simp only [subtotalValue?, hkind] at hw
  obtain ⟨v, hv, rfl⟩ := map_eq_ok_iff.mp hw
  have hget : g'.get s.cell = v := h.get_eq_of_subtotalValue? hs (by
    simp only [subtotalValue?, hkind, hv, Except.map])
  rw [Grid.ShowsRatio, hget]
  exact ratioFormula_eq_ok_iff.mp hv

/-- The cell of a total in a ratio column divides the cells to its left. -/
theorem showsRatio_of_total (h : Resolved g extent kinds g' r) {t : Total}
    (ht : t ∈ r.totals) (hkind : t.kind = .ratio) : g'.ShowsRatio t.cell := by
  obtain ⟨w, hw⟩ := h.exists_total t ht
  simp only [totalValue?, plainTotal?, hkind] at hw
  obtain ⟨v, hv, rfl⟩ := map_eq_ok_iff.mp hw
  have hget : g'.get t.cell = v := h.get_eq_of_totalValue? ht (by
    simp only [totalValue?, plainTotal?, hkind, hv, Except.map])
  rw [Grid.ShowsRatio, hget]
  exact ratioFormula_eq_ok_iff.mp hv

end Resolved

end Resolution

open Resolution

namespace Layout.Marked

variable {template g g' : Grid} {anchors : Anchors} {columns : List String}
  {groups : List Group} {extent : Extent} {kinds : ColumnKinds} {r : Resolution}
  {c : Cell} {b : Nat × Group} {col : Nat} {name : String}

/-- In every column, a subtotal row has a subtotal. -/
theorem mem_subtotals_of_isAt (h : Marked template anchors columns groups g extent)
    (hr : Resolved g extent kinds g' r) (hb : b ∈ Group.placed groups) (hlarge : 1 < b.2.size)
    (hname : columns[col]? = some name) (hat : c.IsAt extent.first (b.1 + b.2.size) col) :
    ⟨c, b.2.size, name, kinds.classify name⟩ ∈ r.subtotals :=
  (h.mem_subtotals_iff hr).mpr ⟨⟨b, hb, hlarge, rfl, col, hname, hat⟩, rfl⟩

/-- In every column, the total row has a total. -/
theorem mem_totals_of_row (h : Marked template anchors columns groups g extent)
    (hr : Resolved g extent kinds g' r) (hname : columns[col]? = some name)
    (hrow : c.row + 1 = extent.last.row) (hcol : c.col = extent.first.col + col) :
    ⟨c, name, kinds.classify name⟩ ∈ r.totals := by
  rw [hr.mem_totals, h.total_iff]
  exact ⟨⟨col, hname, hrow, hcol⟩, rfl⟩

/-- A counted subtotal sums its group. -/
theorem get_subtotal_count (h : Marked template anchors columns groups g extent)
    (hr : Resolved g extent kinds g' r) (hb : b ∈ Group.placed groups) (hlarge : 1 < b.2.size)
    (hname : columns[col]? = some name) (hat : c.IsAt extent.first (b.1 + b.2.size) col)
    (hkind : kinds.classify name = .count) :
    ∃ range : Extent, range.first.IsAt extent.first b.1 col ∧
      range.last.IsAt extent.first (b.1 + b.2.size - 1) col ∧ g'.ShowsSum c range := by
  have hs := h.mem_subtotals_of_isAt hr hb hlarge hname hat
  obtain ⟨first, last, hsummed, hfirst, hlast⟩ := Subtotal.summed_eq_ok
    (s := ⟨c, b.2.size, name, kinds.classify name⟩) (Nat.zero_lt_of_lt hlarge) hat
  refine ⟨⟨first, last⟩, hfirst, hlast, hr.get_eq_of_subtotalValue? hs ?_⟩
  simp only [subtotalValue?, hkind, sumFormula]
  rw [hkind] at hsummed
  rw [hsummed]
  rfl

/-- A subtotal in a ratio column divides the cells to its left. -/
theorem get_subtotal_ratio (h : Marked template anchors columns groups g extent)
    (hr : Resolved g extent kinds g' r) (hb : b ∈ Group.placed groups) (hlarge : 1 < b.2.size)
    (hname : columns[col]? = some name) (hat : c.IsAt extent.first (b.1 + b.2.size) col)
    (hkind : kinds.classify name = .ratio) : g'.ShowsRatio c :=
  hr.showsRatio_of_subtotal (h.mem_subtotals_of_isAt hr hb hlarge hname hat) hkind

/-- A subtotal in a label column is the label. -/
theorem get_subtotal_label (h : Marked template anchors columns groups g extent)
    (hr : Resolved g extent kinds g' r) (hb : b ∈ Group.placed groups) (hlarge : 1 < b.2.size)
    (hname : columns[col]? = some name) (hat : c.IsAt extent.first (b.1 + b.2.size) col)
    (hkind : kinds.classify name = .label) : g'.get c = .text kinds.subtotalLabel := by
  have hs := h.mem_subtotals_of_isAt hr hb hlarge hname hat
  refine hr.get_eq_of_subtotalValue? hs ?_
  simp only [subtotalValue?, hkind]

/-- A counted total adds the subtotals of the larger groups and the records of the others. -/
theorem get_total_count (h : Marked template anchors columns groups g extent)
    (hr : Resolved g extent kinds g' r) (hgroups : ∀ b ∈ groups, b.members ≠ [])
    (hname : columns[col]? = some name) (hrow : c.row + 1 = extent.last.row)
    (hcol : c.col = extent.first.col + col) (hkind : kinds.classify name = .count) :
    g'.ShowsAddition c
      (extent.columnCells col (Group.subtotalRows groups ++ Group.singleRows groups)) := by
  rw [← h.totalTerms_eq hr hgroups hname hrow hcol]
  exact hr.showsAddition_of_total (h.mem_totals_of_row hr hname hrow hcol) hkind

/-- A total in a ratio column divides the cells to its left. -/
theorem get_total_ratio (h : Marked template anchors columns groups g extent)
    (hr : Resolved g extent kinds g' r) (hname : columns[col]? = some name)
    (hrow : c.row + 1 = extent.last.row) (hcol : c.col = extent.first.col + col)
    (hkind : kinds.classify name = .ratio) : g'.ShowsRatio c :=
  hr.showsRatio_of_total (h.mem_totals_of_row hr hname hrow hcol) hkind

/-- A total in a label column is the label. -/
theorem get_total_label (h : Marked template anchors columns groups g extent)
    (hr : Resolved g extent kinds g' r) (hname : columns[col]? = some name)
    (hrow : c.row + 1 = extent.last.row) (hcol : c.col = extent.first.col + col)
    (hkind : kinds.classify name = .label) : g'.get c = .text kinds.totalLabel := by
  have ht := h.mem_totals_of_row hr hname hrow hcol
  refine hr.get_eq_of_totalValue? ht ?_
  simp only [totalValue?, plainTotal?, hkind]

/-- Every column has a cell in the total row. -/
theorem exists_total_cell (h : Marked template anchors columns groups g extent)
    (hname : columns[col]? = some name) :
    ∃ c : Cell, c.row + 1 = extent.last.row ∧ c.col = extent.first.col + col := by
  have hlast := h.last_row
  have hlength := PlannedRow.two_le_length_plan (groups.map Group.records)
  obtain ⟨index, hindex⟩ :
      ∃ index, index + 2 = (PlannedRow.plan (groups.map Group.records)).length :=
    ⟨_, Nat.sub_add_cancel hlength⟩
  obtain ⟨c, hc⟩ := h.exists_isAt_of_planned (PlannedRow.total_mem_plan_iff.mpr hindex) hname
  rw [← h.first] at hlast
  unfold Cell.IsAt at hc
  exact ⟨c, by omega, hc.2⟩

end Layout.Marked

end SheetReport
