import SheetReport.Proofs.Report.Replacement

/-!
# Subtotal rows, the total row and the closing row

The rows of a report that hold tags are told by their place: a subtotal row stands below the records
of a larger group, the total row is the last but one, and the closing row is the last. In a subtotal
row or the total row, what resolving leaves depends on the kind of the column: a formula, the label
of the row, or the tag.

Main statements: `onSubtotalRow_iff`, `not_isMarkup_of_formula` and `get_of_label`.
-/

namespace SheetReport

open Resolution

/-- Whether a cell lies in the row below the records of a larger group. -/
def Layout.OnSubtotalRow (groups : List Group) (extent : Extent) (c : Cell) : Prop :=
  ∃ b ∈ Group.placed groups, 1 < b.2.size ∧ c.row = extent.first.row + b.1 + b.2.size

/-- Whether a cell lies in the subtotal row of a larger group or in the total row, in a column of
labels, and a text is the label of the row. -/
def Layout.LabelledAs (kinds : ColumnKinds) (columns : List String) (groups : List Group)
    (extent : Extent) (text : String) (c : Cell) : Prop :=
  ∃ col name, columns[col]? = some name ∧ c.col = extent.first.col + col ∧
    kinds.classify name = .label ∧
    (OnSubtotalRow groups extent c ∧ kinds.subtotalLabel = text ∨
      c.row + 1 = extent.last.row ∧ kinds.totalLabel = text)

/-- The label of an aggregate row. -/
def PlannedRow.label? (kinds : ColumnKinds) : PlannedRow → Option String
  | .subtotal _ => some kinds.subtotalLabel
  | .total => some kinds.totalLabel
  | .data _ | .blank | .decorative => none

namespace PlannedRow

variable {row : PlannedRow} {name : String} {tag : Tag}

/-- The tag of an aggregate row is one of the column. -/
theorem column?_of_tag? (htag : row.tag? name = some tag) (haggregate : tag.isAggregate = true) :
    tag.column? = some name := by
  cases row <;> simp only [tag?, reduceCtorEq, Option.some.injEq] at htag <;> subst htag
  · rfl
  · rfl
  · contradiction

/-- An aggregate row has a label. -/
theorem exists_label?_of_tag? (kinds : ColumnKinds) (htag : row.tag? name = some tag)
    (haggregate : tag.isAggregate = true) : ∃ label, row.label? kinds = some label := by
  cases row <;> simp only [tag?, reduceCtorEq, Option.some.injEq] at htag <;> subst htag
  · exact ⟨_, rfl⟩
  · exact ⟨_, rfl⟩
  · contradiction

end PlannedRow

/-- A cell without markup is not written. -/
theorem Resolution.Resolved.notMem_writes {g g' : Grid} {extent : Extent} {kinds : ColumnKinds}
    {r : Resolution} {c : Cell} (h : Resolved g extent kinds g' r)
    (hmarkup : (g.get c).isMarkup = false) : c ∉ r.writes.map Prod.fst := by
  intro hwritten
  obtain ⟨⟨c, v⟩, hmem, rfl⟩ := List.mem_map.mp hwritten
  obtain ⟨⟨column, ⟨tag, ⟨text, htext, hread⟩, -⟩, -⟩, -⟩ := h.mem_writes_iff.mp hmem
  rw [htext] at hmarkup
  rw [Tag.isMarkup_eq_false_iff.mp hmarkup] at hread
  simp at hread

namespace Layout.Marked

variable {template g g' : Grid} {anchors : Anchors} {columns : List String}
  {groups : List Group} {extent : Extent} {kinds : ColumnKinds} {r : Resolution}
  {c : Cell} {row : PlannedRow} {index col : Nat} {name : String} {tag : Tag}

/-- A cell lies in the row below a larger group exactly when its row is a subtotal row. -/
theorem onSubtotalRow_iff (hrow : (PlannedRow.plan (groups.map Group.records))[index]? = some row)
    (hat : c.IsAt extent.first index col) :
    OnSubtotalRow groups extent c ↔ ∃ size, row = .subtotal size := by
  constructor
  · intro hex
    obtain ⟨b, hb, hlarge, hbelow⟩ := hex
    have hindex : index = b.1 + b.2.size := by
      have hdistance := hat.1
      omega
    have hplanned := Group.subtotal_mem_plan_iff.mpr ⟨b, hb, hlarge, rfl, hindex⟩
    exact ⟨b.2.size, Option.some.inj (hrow.symm.trans hplanned)⟩
  · intro hex
    obtain ⟨size, rfl⟩ := hex
    obtain ⟨b, hb, hlarge, -, rfl⟩ := Group.subtotal_mem_plan_iff.mp hrow
    exact ⟨b, hb, hlarge, by rw [hat.1, Nat.add_assoc]⟩

/-- A cell lies in the last row but one exactly when its row is the total row. -/
theorem row_eq_total_iff (h : Marked template anchors columns groups g extent)
    (hrow : (PlannedRow.plan (groups.map Group.records))[index]? = some row)
    (hat : c.IsAt extent.first index col) : c.row + 1 = extent.last.row ↔ row = .total := by
  have hlast := h.last_row
  rw [← h.first] at hlast
  have hdistance := hat.1
  have htotal : (PlannedRow.plan (groups.map Group.records))[index]? = some .total ↔ _ :=
    PlannedRow.total_mem_plan_iff
  rw [hrow, Option.some.injEq] at htotal
  rw [htotal]
  omega

/-- A cell lies in the last row exactly when its row is the closing row. -/
theorem row_eq_decorative_iff (h : Marked template anchors columns groups g extent)
    (hrow : (PlannedRow.plan (groups.map Group.records))[index]? = some row)
    (hat : c.IsAt extent.first index col) : c.row = extent.last.row ↔ row = .decorative := by
  have hlast := h.last_row
  rw [← h.first] at hlast
  have hdistance := hat.1
  have hbar : (PlannedRow.plan (groups.map Group.records))[index]? = some .decorative ↔ _ :=
    PlannedRow.decorative_mem_plan_iff
  rw [hrow, Option.some.injEq] at hbar
  rw [hbar]
  omega

/-- The cell of a sum or a ratio holds no markup. -/
theorem not_isMarkup_of_formula (h : Marked template anchors columns groups g extent)
    (hr : Resolved g extent kinds g' r) (hgroups : ∀ b ∈ groups, b.members ≠ [])
    (hrow : (PlannedRow.plan (groups.map Group.records))[index]? = some row)
    (hname : columns[col]? = some name) (hat : c.IsAt extent.first index col)
    (htag : row.tag? name = some tag) (haggregate : tag.isAggregate = true)
    (hkind : kinds.classify name = .count ∨ kinds.classify name = .ratio) :
    (g'.get c).isMarkup = false := by
  have hratio (hshows : g'.ShowsRatio c) : (g'.get c).isMarkup = false := by
    obtain ⟨_, _, -, -, -, -, hget⟩ := hshows
    rw [hget]
    exact Value.not_isMarkup_formula (by simp)
  cases row with
  | subtotal size =>
    obtain ⟨b, hb, hlarge, -, rfl⟩ := Group.subtotal_mem_plan_iff.mp hrow
    rcases hkind with hkind | hkind
    · obtain ⟨range, -, -, hget⟩ := h.get_subtotal_count hr hb hlarge hname hat hkind
      rw [hget]
      exact Value.not_isMarkup_formula (by simp)
    · exact hratio (h.get_subtotal_ratio hr hb hlarge hname hat hkind)
  | total =>
    have hlast := (h.row_eq_total_iff hrow hat).mpr rfl
    rcases hkind with hkind | hkind
    · have hadds := h.get_total_count hr hgroups hname hlast hat.2 hkind
      by_cases hnil : extent.columnCells col
          (Group.subtotalRows groups ++ Group.singleRows groups) = []
      · rw [hadds.zero hnil]
        exact Value.not_isMarkup_formula rfl
      · rw [hadds.sum hnil]
        exact Value.not_isMarkup_formula (by simp)
    · exact hratio (h.get_total_ratio hr hname hlast hat.2 hkind)
  | decorative =>
    obtain rfl := Option.some.inj htag
    contradiction
  | data r => contradiction
  | blank => contradiction

/-- The cell of a label column holds the label of its row. -/
theorem get_of_label (h : Marked template anchors columns groups g extent)
    (hr : Resolved g extent kinds g' r)
    (hrow : (PlannedRow.plan (groups.map Group.records))[index]? = some row)
    (hname : columns[col]? = some name) (hat : c.IsAt extent.first index col) {label : String}
    (hlabel : row.label? kinds = some label) (hkind : kinds.classify name = .label) :
    g'.get c = .text label := by
  cases row with
  | subtotal size =>
    obtain rfl := Option.some.inj hlabel
    obtain ⟨b, hb, hlarge, -, rfl⟩ := Group.subtotal_mem_plan_iff.mp hrow
    exact h.get_subtotal_label hr hb hlarge hname hat hkind
  | total =>
    obtain rfl := Option.some.inj hlabel
    exact h.get_total_label hr hname ((h.row_eq_total_iff hrow hat).mpr rfl) hat.2 hkind
  | data r => contradiction
  | blank => contradiction
  | decorative => contradiction

/-- A cell is labelled exactly when its column is one of labels and its row has the label. -/
theorem labelledAs_iff (h : Marked template anchors columns groups g extent)
    (hrow : (PlannedRow.plan (groups.map Group.records))[index]? = some row)
    (hname : columns[col]? = some name) (hat : c.IsAt extent.first index col) {text : String} :
    LabelledAs kinds columns groups extent text c ↔
      kinds.classify name = .label ∧ row.label? kinds = some text := by
  have hlabel : OnSubtotalRow groups extent c ∧ kinds.subtotalLabel = text ∨
      c.row + 1 = extent.last.row ∧ kinds.totalLabel = text ↔ row.label? kinds = some text := by
    rw [onSubtotalRow_iff hrow hat, h.row_eq_total_iff hrow hat]
    cases row <;> simp [PlannedRow.label?]
  unfold LabelledAs
  rw [hlabel]
  constructor
  · intro hex
    obtain ⟨col', name', hname', hcol', hboth⟩ := hex
    obtain rfl : col' = col := by
      have hdistance := hat.2
      omega
    obtain rfl := Option.some.inj (hname'.symm.trans hname)
    exact hboth
  · intro hboth
    exact ⟨col, name, hname, hat.2, hboth⟩

end Layout.Marked

namespace SmallReport

/-- The groups take the rows two to nine, and there are five columns. -/
theorem extent_eq {a : Assembler} {final : Grid} {outcome : Outcome}
    (hgrouper : a.grouper = assembler.grouper)
    (hrun : a.run template records placeholders = .ok (final, outcome)) :
    outcome.extent = ⟨cell 1 0, cell 8 4⟩ := by
  obtain ⟨groups', anchors', laid, resolved, h⟩ := Assembler.run_eq_ok hrun
  have hgroups := h.build_eq
  rw [hgrouper] at hgroups
  obtain rfl := Except.ok.inj (build_eq.symm.trans hgroups)
  obtain rfl := Except.ok.inj (anchors_eq.symm.trans h.anchors_eq)
  have hrows : outcome.extent.last.row + 1 = 9 := h.rendered.last_row
  have hcolumns : outcome.extent.last.col + 1 = 5 := h.rendered.last_col
  have hlast : outcome.extent.last = cell 8 4 :=
    Cell.ext (Nat.succ.inj hrows) (Nat.succ.inj hcolumns)
  rw [← hlast, ← show outcome.extent.first = cell 1 0 from h.rendered.first]

/-- The larger group stands above the fourth row. -/
theorem onSubtotalRow : Layout.OnSubtotalRow groups ⟨cell 1 0, cell 8 4⟩ (cell 3 4) :=
  ⟨(0, ⟨⟨"", "", .lineItem "ORD-1-1-1"⟩,
    [⟨0, ⟨[.text "ORD-1-1-1", .text "10"]⟩⟩, ⟨1, ⟨[.text "ORD-1-1-1"]⟩⟩]⟩),
    by decide +kernel, by decide, by decide⟩

end SmallReport

end SheetReport
