import SheetReport.Proofs.Report.Rendering
import SheetReport.Proofs.Report.Resolving
import SheetReport.Proofs.Sheet.Printing

/-!
# The tags of a laid out report

The layout writes tags into subtotal rows, the total row and the closing row; all other cells
hold words, record values or what the template had. So, if template and records hold no
aggregate tags of their own, the aggregate tags of the grid are exactly those of the planned
rows, and if they hold no rejected text either, every tag of the grid can be read.

Main statements: `Rendered.holdsTag_subtotal_iff`, `Rendered.holdsTag_total_iff`, and
`Rendered.exists_tags`.
-/

namespace SheetReport

namespace Value

/-- Whether a value is a text that is read as a subtotal or a total. -/
def isAggregate : Value → Bool
  | .text s => Tag.readsAsAggregate s
  | _ => false

/-- Whether a value is a text that is rejected as a subtotal or a total. -/
def isRejected : Value → Bool
  | .text s => Tag.isRejected s
  | _ => false

/-- Whether a value is a text that is read as a subtotal or a total, or rejected as one. -/
def resemblesAggregate (v : Value) : Bool := v.isAggregate || v.isRejected

/-- A value that is no markup is no aggregate. -/
theorem not_isAggregate_of_not_isMarkup {v : Value} (h : v.isMarkup = false) :
    v.isAggregate = false := by
  cases v with
  | text s => exact Tag.readsAsAggregate_of_not_isMarkup h
  | _ => rfl

/-- A value that is no markup is not rejected. -/
theorem not_isRejected_of_not_isMarkup {v : Value} (h : v.isMarkup = false) :
    v.isRejected = false := by
  cases v with
  | text s => exact Tag.isRejected_of_not_isMarkup h
  | _ => rfl

/-- What stands for a missing value is no markup. -/
theorem not_isMarkup_notAvailable : (text notAvailable).isMarkup = false := by
  have hhead : notAvailable.toList.head? ≠ some '<' := by decide
  exact Tag.not_isMarkup_of_head hhead

/-- The name of a column is no markup. -/
theorem not_isMarkup_of_isEncodable {name : String} (h : Tag.isEncodable name = true) :
    (text name).isMarkup = false := by
  simp only [Tag.isEncodable, Bool.and_eq_true] at h
  exact Tag.not_isMarkup_of_isWords h.1

end Value

/-- Whether no value of a grid passes a test. -/
def Grid.Lacks (g : Grid) (test : Value → Bool) : Prop := ∀ e ∈ g.entries, test e.2 = false

instance (g : Grid) (test : Value → Bool) : Decidable (g.Lacks test) :=
  inferInstanceAs (Decidable (∀ e ∈ g.entries, test e.2 = false))

/-- Whether no value of a record passes a test. -/
def Record.Lacks (r : Record) (test : Value → Bool) : Prop := ∀ v ∈ r.values, test v = false

instance (r : Record) (test : Value → Bool) : Decidable (r.Lacks test) :=
  inferInstanceAs (Decidable (∀ v ∈ r.values, test v = false))

/-- Whether no value of a record set passes a test. -/
def Records.Lacks (s : Records) (test : Value → Bool) : Prop := ∀ r ∈ s.records, r.Lacks test

instance (s : Records) (test : Value → Bool) : Decidable (s.Lacks test) :=
  inferInstanceAs (Decidable (∀ r ∈ s.records, r.Lacks test))

/-- A grid that fails a weaker test everywhere fails a stronger one. -/
theorem Grid.Lacks.mono {g : Grid} {test test' : Value → Bool} (h : g.Lacks test)
    (himp : ∀ v, test v = false → test' v = false) : g.Lacks test' :=
  fun e he => himp e.2 (h e he)

/-- A record set that fails a weaker test everywhere fails a stronger one. -/
theorem Records.Lacks.mono {s : Records} {test test' : Value → Bool} (h : s.Lacks test)
    (himp : ∀ v, test v = false → test' v = false) : s.Lacks test' :=
  fun r hr v hv => himp v (h r hr v hv)

/-- What no value of a grid passes, no cell passes, as an empty cell does not either. -/
theorem Grid.Lacks.get {g : Grid} {test : Value → Bool} (h : g.Lacks test)
    (hempty : test .empty = false) (c : Cell) : test (g.get c) = false := by
  by_cases hc : g.get c = .empty
  · rw [hc, hempty]
  · exact h (c, g.get c) (Grid.mem_entries.mpr ⟨rfl, hc⟩)

/-- What no value of a record passes, no position passes, as a missing value does not either. -/
theorem Record.Lacks.get {r : Record} {test : Value → Bool} (h : r.Lacks test)
    (hempty : test .empty = false) (i : Nat) : test (r.get i) = false := by
  rw [Record.get, List.getD_eq_getElem?_getD]
  cases hi : r.values[i]? with
  | none => exact hempty
  | some v => exact h v (List.mem_of_getElem? hi)

namespace PlannedRow

/-- The tag that a planned row has in a column. -/
def tag? (column : String) : PlannedRow → Option Tag
  | .subtotal size => some (.subtotal size column)
  | .total => some (.total column)
  | .decorative => some (.decorative Tag.totalBar)
  | .data _ | .blank => none

/-- A row with a tag shows its text. -/
theorem cellValue_of_tag? {row : PlannedRow} {index : Nat} {column : String} {tag : Tag}
    (h : row.tag? column = some tag) : row.cellValue index column = .text tag.text := by
  cases row <;> simp only [tag?, reduceCtorEq, Option.some.injEq] at h <;> subst h <;> rfl

/-- A test that holds for markup only, and is passed by no value of a record, is passed by no
cell of its row. -/
theorem lacks_cellValue_data {test : Value → Bool}
    (htest : ∀ v : Value, v.isMarkup = false → test v = false) {r : Record} (hr : r.Lacks test)
    (index : Nat) (column : String) : test ((data r).cellValue index column) = false := by
  simp only [cellValue]
  split
  · exact htest _ Value.not_isMarkup_notAvailable
  · exact hr.get (htest _ rfl) index

/-- A subtotal covers more than one row, all of them above its own. -/
theorem size_of_subtotal_mem_plan {groups : List (List Record)} {i size : Nat}
    (h : (plan groups)[i]? = some (.subtotal size)) : 1 < size ∧ size ≤ i := by
  obtain ⟨b, -, hlt, rfl, rfl⟩ := subtotal_mem_plan_iff.mp h
  exact ⟨hlt, Nat.le_add_left _ _⟩

end PlannedRow

namespace Layout.Rendered

variable {template g : Grid} {anchors : Anchors} {columns : List String}
  {rows : List PlannedRow} {groups : List (List Record)} {extent : Extent}

/-- In the rows and headers of a report, a test that holds for markup only is passed by tags of
planned rows only, if it is passed by no value of the records. -/
theorem tag_or_lacks_of_not_elsewhere (h : Rendered template anchors columns rows g extent)
    (hencodable : ∀ name ∈ columns, Tag.isEncodable name = true) {test : Value → Bool}
    (htest : ∀ v : Value, v.isMarkup = false → test v = false)
    (hrecords : ∀ r, .data r ∈ rows → r.Lacks test) {c : Cell}
    (hc : ¬ Elsewhere extent anchors columns c) :
    (∃ row index name col tag, rows[index]? = some row ∧ columns[col]? = some name ∧
      c.IsAt extent.first index col ∧ row.tag? name = some tag ∧ g.get c = .text tag.text) ∨
    test (g.get c) = false := by
  rcases h.get_of_not_elsewhere hc with
    ⟨row, index, name, col, hrow, hname, hat, hget⟩ | ⟨name, hname, hget⟩
  · cases hrowTag : row.tag? name with
    | some tag =>
      exact .inl ⟨row, index, name, col, tag, hrow, hname, hat, hrowTag,
        hget.trans (PlannedRow.cellValue_of_tag? hrowTag)⟩
    | none =>
      refine .inr ?_
      rw [hget]
      cases row with
      | data r =>
        have hr := hrecords r (List.mem_of_getElem? hrow)
        exact PlannedRow.lacks_cellValue_data htest hr col name
      | blank => exact htest _ rfl
      | _ => simp [PlannedRow.tag?] at hrowTag
  · rw [hget]
    exact .inr (htest _ (Value.not_isMarkup_of_isEncodable (hencodable name hname)))

/-- The same for the whole grid, if the test is passed by no value of the template either. -/
theorem tag_or_lacks (h : Rendered template anchors columns rows g extent)
    (hencodable : ∀ name ∈ columns, Tag.isEncodable name = true) {test : Value → Bool}
    (htest : ∀ v : Value, v.isMarkup = false → test v = false) (htemplate : template.Lacks test)
    (hrecords : ∀ r, .data r ∈ rows → r.Lacks test) (c : Cell) :
    (∃ row index name col tag, rows[index]? = some row ∧ columns[col]? = some name ∧
      c.IsAt extent.first index col ∧ row.tag? name = some tag ∧ g.get c = .text tag.text) ∨
    test (g.get c) = false := by
  by_cases hc : Elsewhere extent anchors columns c
  · rw [h.outside hc]
    exact .inr (htemplate.get (htest _ rfl) c)
  · exact h.tag_or_lacks_of_not_elsewhere hencodable htest hrecords hc

/-- The tag of a planned row is read back from its text: sizes are below the number of rows of
the sheet. -/
theorem read_text_tag (h : Rendered template anchors columns (PlannedRow.plan groups) g extent)
    (hencodable : ∀ name ∈ columns, Tag.isEncodable name = true) {row : PlannedRow}
    {index col : Nat} {name : String} {tag : Tag}
    (hrow : (PlannedRow.plan groups)[index]? = some row) (hname : columns[col]? = some name)
    (htag : row.tag? name = some tag) : Tag.read tag.text = .ok (some tag) := by
  have hencodable := hencodable name (List.mem_of_getElem? hname)
  cases row with
  | subtotal size =>
    obtain rfl := Option.some.inj htag
    obtain ⟨hpos, hle⟩ := PlannedRow.size_of_subtotal_mem_plan hrow
    obtain ⟨hindex, -⟩ := List.getElem?_eq_some_iff.mp hrow
    have hlast := h.last_row
    have hlt := extent.last.row_lt
    simp only [Tag.isEncodable, Bool.and_eq_true] at hencodable
    exact Tag.read_text_subtotal (by omega) (by unfold Tag.sizeLimit; omega) hencodable.1
  | total =>
    obtain rfl := Option.some.inj htag
    exact Tag.read_text_total hencodable
  | decorative =>
    obtain rfl := Option.some.inj htag
    exact Tag.read_text_totalBar
  | _ => simp [PlannedRow.tag?] at htag

/-- Under a planned row with a tag, the cell of a column holds that tag. -/
theorem holdsTag_of_tag? (h : Rendered template anchors columns (PlannedRow.plan groups) g extent)
    (hencodable : ∀ name ∈ columns, Tag.isEncodable name = true) {row : PlannedRow}
    {index col : Nat} {name : String} {tag : Tag} {c : Cell}
    (hrow : (PlannedRow.plan groups)[index]? = some row) (hname : columns[col]? = some name)
    (hat : c.IsAt extent.first index col) (htag : row.tag? name = some tag) : g.HoldsTag c tag :=
  ⟨tag.text, (h.planned hrow hname hat).trans (PlannedRow.cellValue_of_tag? htag),
    h.read_text_tag hencodable hrow hname htag⟩

/-- The aggregate tags of a laid out report are those of its planned rows. -/
theorem holdsTag_iff (h : Rendered template anchors columns (PlannedRow.plan groups) g extent)
    (hencodable : ∀ name ∈ columns, Tag.isEncodable name = true)
    (htemplate : template.Lacks Value.isAggregate)
    (hrecords : ∀ r, .data r ∈ PlannedRow.plan groups → r.Lacks Value.isAggregate) {c : Cell}
    {tag : Tag} (haggregate : tag.isAggregate = true) :
    g.HoldsTag c tag ↔
      ∃ row index name col, (PlannedRow.plan groups)[index]? = some row ∧
        columns[col]? = some name ∧ c.IsAt extent.first index col ∧ row.tag? name = some tag := by
  constructor
  · intro hholds
    rcases h.tag_or_lacks hencodable (fun _ => Value.not_isAggregate_of_not_isMarkup) htemplate
        hrecords c with ⟨row, index, name, col, tag', hrow, hname, hat, htag, -⟩ | hlacks
    · obtain rfl := hholds.unique (h.holdsTag_of_tag? hencodable hrow hname hat htag)
      exact ⟨row, index, name, col, hrow, hname, hat, htag⟩
    · obtain ⟨text, htext, hread⟩ := hholds
      simp [htext, Value.isAggregate, Tag.readsAsAggregate, hread, haggregate] at hlacks
  · intro hex
    obtain ⟨row, index, name, col, hrow, hname, hat, htag⟩ := hex
    exact h.holdsTag_of_tag? hencodable hrow hname hat htag

/-- Subtotal tags stand in the subtotal rows, one in each column. -/
theorem holdsTag_subtotal_iff
    (h : Rendered template anchors columns (PlannedRow.plan groups) g extent)
    (hencodable : ∀ name ∈ columns, Tag.isEncodable name = true)
    (htemplate : template.Lacks Value.isAggregate)
    (hrecords : ∀ r, .data r ∈ PlannedRow.plan groups → r.Lacks Value.isAggregate) {c : Cell}
    {size : Nat} {name : String} :
    g.HoldsTag c (.subtotal size name) ↔
      ∃ index col, (PlannedRow.plan groups)[index]? = some (.subtotal size) ∧
        columns[col]? = some name ∧ c.IsAt extent.first index col := by
  rw [h.holdsTag_iff hencodable htemplate hrecords rfl]
  constructor
  · intro hex
    obtain ⟨row, index, name', col, hrow, hname, hat, htag⟩ := hex
    cases row <;> simp only [PlannedRow.tag?, reduceCtorEq, Option.some.injEq,
      Tag.subtotal.injEq] at htag
    obtain ⟨rfl, rfl⟩ := htag
    exact ⟨index, col, hrow, hname, hat⟩
  · intro hex
    obtain ⟨index, col, hrow, hname, hat⟩ := hex
    exact ⟨_, index, name, col, hrow, hname, hat, rfl⟩

/-- Total tags stand in the total row, one in each column. -/
theorem holdsTag_total_iff
    (h : Rendered template anchors columns (PlannedRow.plan groups) g extent)
    (hencodable : ∀ name ∈ columns, Tag.isEncodable name = true)
    (htemplate : template.Lacks Value.isAggregate)
    (hrecords : ∀ r, .data r ∈ PlannedRow.plan groups → r.Lacks Value.isAggregate) {c : Cell}
    {name : String} :
    g.HoldsTag c (.total name) ↔
      ∃ index col, (PlannedRow.plan groups)[index]? = some .total ∧
        columns[col]? = some name ∧ c.IsAt extent.first index col := by
  rw [h.holdsTag_iff hencodable htemplate hrecords rfl]
  constructor
  · intro hex
    obtain ⟨row, index, name', col, hrow, hname, hat, htag⟩ := hex
    cases row <;> simp only [PlannedRow.tag?, reduceCtorEq, Option.some.injEq,
      Tag.total.injEq] at htag
    obtain rfl := htag
    exact ⟨index, col, hrow, hname, hat⟩
  · intro hex
    obtain ⟨index, col, hrow, hname, hat⟩ := hex
    exact ⟨_, index, name, col, hrow, hname, hat, rfl⟩

/-- Every tag of a laid out report can be read if template and records hold no rejected text. -/
theorem exists_tags (h : Rendered template anchors columns (PlannedRow.plan groups) g extent)
    (hencodable : ∀ name ∈ columns, Tag.isEncodable name = true)
    (htemplate : template.Lacks Value.isRejected)
    (hrecords : ∀ r, .data r ∈ PlannedRow.plan groups → r.Lacks Value.isRejected) :
    ∃ tags, g.tags = .ok tags := by
  refine Grid.exists_tags_eq_ok_iff.mpr fun c text htext => ?_
  rcases h.tag_or_lacks hencodable (fun _ => Value.not_isRejected_of_not_isMarkup) htemplate
      hrecords c with ⟨row, index, name, col, tag, hrow, hname, hat, htag, hget⟩ | hlacks
  · obtain rfl := Value.text.inj (htext.symm.trans hget)
    exact Tag.isRejected_eq_false_iff.mpr ⟨_, h.read_text_tag hencodable hrow hname htag⟩
  · simpa [htext, Value.isRejected] using hlacks

end Layout.Rendered

end SheetReport
