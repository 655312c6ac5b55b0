import SheetReport.Proofs.Report.RowBlocks
import SheetReport.Proofs.Sequence
import SheetReport.Proofs.Sheet.Writing
import SheetReport.Report.Layout

/-!
# What the layout leaves in a grid

Headers are written first and rows over them. So every cell of the report's rectangle holds what
its row was planned to hold, whatever the template or the header had there; a header cell
outside the rectangle holds its column's name; every other cell is as in the template.

Main statements: `render_eq_ok` for what a layout leaves behind, `render_of_not_isEncodable` and
`render_of_isEncodable` for when it fails.
-/

namespace SheetReport

namespace Grid

/-- A run of fallible writes succeeds exactly when all places exist, and then writes them all. -/
theorem setUntil_eq_ok_iff {g h : Grid} {writes : List (Except ReportError (Cell × Value))} :
    g.setUntil writes = (h, .ok ()) ↔
      ∃ done : List (Cell × Value), writes = done.map .ok ∧ h = g.setAll done := by
  induction writes generalizing g with
  | nil =>
    constructor
    · intro heq
      exact ⟨[], rfl, (congrArg Prod.fst heq).symm⟩
    · intro hex
      obtain ⟨done, hdone, rfl⟩ := hex
      obtain rfl := List.map_eq_nil_iff.mp hdone.symm
      rfl
  | cons w rest ih =>
    cases w with
    | error error =>
      simp only [setUntil, Prod.mk.injEq, reduceCtorEq, and_false, false_iff, not_exists, not_and]
      intro done hdone
      cases done <;> simp at hdone
    | ok write =>
      obtain ⟨cell, value⟩ := write
      rw [setUntil, ih]
      constructor
      · intro hex
        obtain ⟨done, rfl, rfl⟩ := hex
        exact ⟨(cell, value) :: done, rfl, rfl⟩
      · intro hex
        obtain ⟨done, hdone, rfl⟩ := hex
        cases done with
        | nil => simp at hdone
        | cons write done =>
          simp only [List.map_cons, List.cons.injEq, Except.ok.injEq] at hdone
          obtain ⟨rfl, rfl⟩ := hdone
          exact ⟨done, rfl, rfl⟩

/-- A run of fallible writes fails with the error of one of them. -/
theorem exists_of_setUntil_eq_error {g h : Grid} {error : ReportError}
    {writes : List (Except ReportError (Cell × Value))}
    (heq : g.setUntil writes = (h, .error error)) :
    .error error ∈ writes := by
  induction writes generalizing g with
  | nil => simp [setUntil] at heq
  | cons w rest ih =>
    cases w with
    | error error' =>
      simp only [setUntil, Prod.mk.injEq, Except.error.injEq] at heq
      simp [heq.2]
    | ok write => exact List.mem_cons_of_mem _ (ih heq)

end Grid

namespace Layout

/-- What a row of writes holds: one write for every column, at its distance from the anchor. -/
theorem ok_mem_rowWrites_iff {anchor : Cell} {row : Nat} {columns : List String}
    {value : Nat → String → Value} {c : Cell} {v : Value} :
    .ok (c, v) ∈ rowWrites anchor row columns value ↔
      ∃ name col, columns[col]? = some name ∧ c.IsAt anchor row col ∧ v = value col name := by
  simp only [rowWrites, List.mem_map, Prod.exists, List.mk_mem_zipIdx_iff_getElem?]
  constructor
  · intro hex
    obtain ⟨name, col, hname, h⟩ := hex
    cases hlocate : anchor.locate row col with
    | error error => simp [hlocate, Except.map] at h
    | ok place =>
      simp only [hlocate, Except.map, Except.ok.injEq, Prod.mk.injEq] at h
      obtain ⟨rfl, rfl⟩ := h
      exact ⟨name, col, hname, Cell.locate_eq_ok_iff_isAt.mp hlocate, rfl⟩
  · intro hex
    obtain ⟨name, col, hname, hat, rfl⟩ := hex
    exact ⟨name, col, hname, by rw [Cell.locate_eq_ok_iff_isAt.mpr hat]; rfl⟩

/-- A row of writes fails where a place is missing. -/
theorem error_mem_rowWrites_iff {anchor : Cell} {row : Nat} {columns : List String}
    {value : Nat → String → Value} {error : ReportError} :
    .error error ∈ rowWrites anchor row columns value ↔
      ∃ col < columns.length, anchor.locate row col = .error error := by
  simp only [rowWrites, List.mem_map, Prod.exists, List.mk_mem_zipIdx_iff_getElem?]
  constructor
  · intro hex
    obtain ⟨name, col, hname, h⟩ := hex
    obtain ⟨hlt, -⟩ := List.getElem?_eq_some_iff.mp hname
    cases hlocate : anchor.locate row col with
    | ok place => simp [hlocate, Except.map] at h
    | error error' =>
      simp only [hlocate, Except.map, Except.error.injEq] at h
      exact ⟨col, hlt, by rw [hlocate, h]⟩
  · intro hex
    obtain ⟨col, hlt, hlocate⟩ := hex
    exact ⟨columns[col], col, by simp [hlt], by rw [hlocate]; rfl⟩

/-- The writes of the planned rows. -/
def plannedWrites (anchors : Anchors) (columns : List String) (rows : List PlannedRow) :
    List (Except ReportError (Cell × Value)) :=
  rows.zipIdx.flatMap fun (row, index) =>
    rowWrites anchors.dataStart index columns fun col name => row.cellValue col name

/-- The planned rows write every cell at its distance from the data anchor. -/
theorem ok_mem_plannedWrites_iff {anchors : Anchors} {columns : List String}
    {rows : List PlannedRow} {c : Cell} {v : Value} :
    .ok (c, v) ∈ plannedWrites anchors columns rows ↔
      ∃ row index, rows[index]? = some row ∧ ∃ name col, columns[col]? = some name ∧
        c.IsAt anchors.dataStart index col ∧ v = row.cellValue col name := by
  simp only [plannedWrites, List.mem_flatMap, Prod.exists, List.mk_mem_zipIdx_iff_getElem?,
    ok_mem_rowWrites_iff]

/-- Whether a cell lies neither in the rows of a report nor under its headers. -/
def Elsewhere (extent : Extent) (anchors : Anchors) (columns : List String) (c : Cell) : Prop :=
  extent.contains c = false ∧ ∀ col < columns.length, ¬ c.IsAt anchors.headerStart 0 col

/-- What a layout leaves in a grid: `g` is `template` with `rows` under the names of `columns`,
in the rectangle `extent`. -/
structure Rendered (template : Grid) (anchors : Anchors) (columns : List String)
    (rows : List PlannedRow) (g : Grid) (extent : Extent) : Prop where
  first : extent.first = anchors.dataStart
  last_row : extent.last.row + 1 = anchors.dataStart.row + rows.length
  last_col : extent.last.col + 1 = anchors.dataStart.col + columns.length
  planned : ∀ {row index}, rows[index]? = some row → ∀ {name col}, columns[col]? = some name →
    ∀ {c : Cell}, c.IsAt extent.first index col → g.get c = row.cellValue col name
  header : ∀ {name col}, columns[col]? = some name → ∀ {c : Cell},
    c.IsAt anchors.headerStart 0 col → extent.contains c = false → g.get c = .text name
  outside : ∀ {c : Cell}, Elsewhere extent anchors columns c → g.get c = template.get c

namespace Rendered

variable {template g : Grid} {anchors : Anchors} {columns : List String}
  {rows : List PlannedRow} {extent : Extent}

/-- The cells of the rectangle are those at the distance of a planned row and a column. -/
theorem contains_iff (h : Rendered template anchors columns rows g extent) {c : Cell} :
    extent.contains c = true ↔
      ∃ index < rows.length, ∃ col < columns.length, c.IsAt extent.first index col := by
  have hrow := h.last_row
  have hcol := h.last_col
  rw [← h.first] at hrow hcol
  simp only [Extent.contains, Bool.and_eq_true, decide_eq_true_eq, Cell.IsAt]
  constructor
  · intro hc
    exact ⟨c.row - extent.first.row, by omega, c.col - extent.first.col, by omega, by omega⟩
  · intro hex
    obtain ⟨index, hindex, col, hcol', hat⟩ := hex
    omega

/-- Every planned row has a cell in every column. -/
theorem exists_isAt (h : Rendered template anchors columns rows g extent) {index col : Nat}
    (hindex : index < rows.length) (hcol : col < columns.length) :
    ∃ c : Cell, c.IsAt extent.first index col := by
  have hrow := h.last_row
  have hcol' := h.last_col
  have hrowlt := extent.last.row_lt
  have hcollt := extent.last.col_lt
  rw [← h.first] at hrow hcol'
  exact ⟨⟨extent.first.row + index, extent.first.col + col, by omega, by omega⟩, rfl, rfl⟩

/-- A planned row has a cell in the column of a name. -/
theorem exists_isAt_of_planned (h : Rendered template anchors columns rows g extent)
    {row : PlannedRow} {name : String} {index col : Nat} (hrow : rows[index]? = some row)
    (hname : columns[col]? = some name) : ∃ c : Cell, c.IsAt extent.first index col := by
  obtain ⟨hindex, -⟩ := List.getElem?_eq_some_iff.mp hrow
  obtain ⟨hcol, -⟩ := List.getElem?_eq_some_iff.mp hname
  exact h.exists_isAt hindex hcol

/-- Every cell of the rectangle holds what its row was planned to hold. -/
theorem exists_planned (h : Rendered template anchors columns rows g extent) {c : Cell}
    (hc : extent.contains c = true) :
    ∃ row index name col, rows[index]? = some row ∧ columns[col]? = some name ∧
      c.IsAt extent.first index col ∧ g.get c = row.cellValue col name := by
  obtain ⟨index, hindex, col, hcol, hat⟩ := h.contains_iff.mp hc
  have hrow : rows[index]? = some rows[index] := List.getElem?_eq_getElem hindex
  have hname : columns[col]? = some columns[col] := List.getElem?_eq_getElem hcol
  exact ⟨_, index, _, col, hrow, hname, hat, h.planned hrow hname hat⟩

/-- Every other cell lies in a planned row or under a header. -/
theorem get_of_not_elsewhere (h : Rendered template anchors columns rows g extent) {c : Cell}
    (hc : ¬ Elsewhere extent anchors columns c) :
    (∃ row index name col, rows[index]? = some row ∧ columns[col]? = some name ∧
      c.IsAt extent.first index col ∧ g.get c = row.cellValue col name) ∨
    ∃ name ∈ columns, g.get c = .text name := by
  cases hcontains : extent.contains c with
  | true => exact .inl (h.exists_planned hcontains)
  | false =>
    simp only [Elsewhere, hcontains, true_and, Classical.not_forall, Classical.not_not] at hc
    obtain ⟨col, hcol, hat⟩ := hc
    exact .inr ⟨columns[col], List.getElem_mem hcol,
      h.header (List.getElem?_eq_getElem hcol) hat hcontains⟩

end Rendered

/-- The writes of a report whose places all exist: those of its headers and of its rows. -/
structure Written (anchors : Anchors) (columns : List String) (rows : List PlannedRow)
    (headers planned : List (Cell × Value)) : Prop where
  mem_headers : ∀ {c v}, (c, v) ∈ headers ↔ ∃ name col, columns[col]? = some name ∧
    c.IsAt anchors.headerStart 0 col ∧ v = .text name
  mem_planned : ∀ {c v}, (c, v) ∈ planned ↔ ∃ row index, rows[index]? = some row ∧
    ∃ name col, columns[col]? = some name ∧ c.IsAt anchors.dataStart index col ∧
      v = row.cellValue col name

/-- If all places exist, the headers are written and then the rows over them. -/
theorem exists_written {template g : Grid} {anchors : Anchors} {columns : List String}
    {rows : List PlannedRow} (h : template.setUntil (writes anchors columns rows) = (g, .ok ())) :
    ∃ headers planned, Written anchors columns rows headers planned ∧
      g = (template.setAll headers).setAll planned := by
  obtain ⟨done, hdone, rfl⟩ := Grid.setUntil_eq_ok_iff.mp h
  obtain ⟨headers, planned, rfl, hheaders, hplanned⟩ := List.map_eq_append_iff.mp hdone.symm
  refine ⟨headers, planned, ⟨fun {c v} => ?_, fun {c v} => ?_⟩, Grid.setAll_append ..⟩
  · have hmem : .ok (c, v) ∈ rowWrites anchors.headerStart 0 columns (fun _ name => .text name) ↔
        ∃ name col, columns[col]? = some name ∧ c.IsAt anchors.headerStart 0 col ∧
          v = .text name := ok_mem_rowWrites_iff
    rw [← hheaders] at hmem
    simpa using hmem
  · rw [← ok_mem_plannedWrites_iff, plannedWrites, ← hplanned]
    simp

namespace Written

variable {anchors : Anchors} {columns : List String} {rows : List PlannedRow}
  {headers planned : List (Cell × Value)} {g : Grid} {c : Cell}

/-- The distance from the anchor tells the row and the column of every write to a cell, so all
of them agree. -/
theorem get_planned (h : Written anchors columns rows headers planned) {row : PlannedRow}
    {index col : Nat} {name : String} (hrow : rows[index]? = some row)
    (hname : columns[col]? = some name) (hat : c.IsAt anchors.dataStart index col) :
    (g.setAll planned).get c = row.cellValue col name := by
  refine Grid.get_setAll_of_agree
    (h.mem_planned.mpr ⟨row, index, hrow, name, col, hname, hat, rfl⟩) ?_
  intro w hw heq
  obtain ⟨c', v⟩ := w
  obtain rfl := heq
  obtain ⟨row', index', hrow', name', col', hname', hat', rfl⟩ := h.mem_planned.mp hw
  obtain ⟨rfl, rfl⟩ := hat.distance hat'
  obtain rfl := Option.some.inj (hrow.symm.trans hrow')
  obtain rfl := Option.some.inj (hname.symm.trans hname')
  rfl

/-- A header cell holds the name of its column. -/
theorem get_header (h : Written anchors columns rows headers planned) {col : Nat} {name : String}
    (hname : columns[col]? = some name) (hat : c.IsAt anchors.headerStart 0 col) :
    (g.setAll headers).get c = .text name := by
  refine Grid.get_setAll_of_agree (h.mem_headers.mpr ⟨name, col, hname, hat, rfl⟩) ?_
  intro w hw heq
  obtain ⟨c', v⟩ := w
  obtain rfl := heq
  obtain ⟨name', col', hname', hat', rfl⟩ := h.mem_headers.mp hw
  obtain ⟨-, rfl⟩ := hat.distance hat'
  obtain rfl := Option.some.inj (hname.symm.trans hname')
  rfl

/-- Other cells than those of the rows keep their values. -/
theorem get_outside_planned (h : Written anchors columns rows headers planned)
    (hc : ∀ index < rows.length, ∀ col < columns.length, ¬ c.IsAt anchors.dataStart index col) :
    (g.setAll planned).get c = g.get c := by
  apply Grid.get_setAll_of_ne
  intro w hw heq
  obtain ⟨c', v⟩ := w
  obtain rfl := heq
  obtain ⟨row, index, hrow, name, col, hname, hat, -⟩ := h.mem_planned.mp hw
  obtain ⟨hindex, -⟩ := List.getElem?_eq_some_iff.mp hrow
  obtain ⟨hcol, -⟩ := List.getElem?_eq_some_iff.mp hname
  exact hc index hindex col hcol hat

/-- Other cells than those of the headers keep their values. -/
theorem get_outside_headers (h : Written anchors columns rows headers planned)
    (hc : ∀ col < columns.length, ¬ c.IsAt anchors.headerStart 0 col) :
    (g.setAll headers).get c = g.get c := by
  apply Grid.get_setAll_of_ne
  intro w hw heq
  obtain ⟨c', v⟩ := w
  obtain rfl := heq
  obtain ⟨name, col, hname, hat, -⟩ := h.mem_headers.mp hw
  obtain ⟨hcol, -⟩ := List.getElem?_eq_some_iff.mp hname
  exact hc col hcol hat

end Written

/-- Writes that all succeed leave the planned rows over the headers over the template. -/
theorem rendered_of_setUntil {template g : Grid} {anchors : Anchors} {columns : List String}
    {rows : List PlannedRow} {extent : Extent} (hcolumns : columns ≠ []) (hrows : rows ≠ [])
    (hwrites : template.setUntil (writes anchors columns rows) = (g, .ok ()))
    (hextent : Layout.extent anchors columns rows = .ok extent) :
    Rendered template anchors columns rows g extent := by
  obtain ⟨last, hlast, rfl⟩ := map_eq_ok_iff.mp hextent
  obtain ⟨hlastRow, hlastCol⟩ := Cell.locate_eq_ok_iff.mp hlast
  have hrowsLen := List.length_pos_iff.mpr hrows
  have hcolumnsLen := List.length_pos_iff.mpr hcolumns
  obtain ⟨headers, planned, hwritten, rfl⟩ := exists_written hwrites
  have houtside {c : Cell} (hc : (Extent.mk anchors.dataStart last).contains c = false) :
      ((template.setAll headers).setAll planned).get c = (template.setAll headers).get c := by
    refine hwritten.get_outside_planned fun index hindex col hcol hat => ?_
    simp only [Extent.contains, Bool.and_eq_false_iff, decide_eq_false_iff_not] at hc
    unfold Cell.IsAt at hat
    omega
  refine ⟨rfl, by simp only; omega, by simp only; omega, ?_, ?_, ?_⟩
  · intro row index hrow name col hname c hat
    exact hwritten.get_planned hrow hname hat
  · intro name col hname c hat hc
    rw [houtside hc]
    exact hwritten.get_header hname hat
  · intro c helsewhere
    rw [houtside helsewhere.1]
    exact hwritten.get_outside_headers helsewhere.2

/-- Whether headers and rows stay on the sheet. -/
def Fits (anchors : Anchors) (columns : List String) (rows : List PlannedRow) : Prop :=
  anchors.headerStart.col + columns.length - 1 ≤ 65535 ∧
    anchors.dataStart.col + columns.length - 1 ≤ 65535 ∧
      anchors.dataStart.row + rows.length - 1 ≤ 4294967295

instance (anchors : Anchors) (columns : List String) (rows : List PlannedRow) :
    Decidable (Fits anchors columns rows) := inferInstanceAs (Decidable (_ ∧ _ ∧ _))

/-- A place is missing exactly when the report does not fit on the sheet. -/
theorem exists_error_mem_writes_iff (anchors : Anchors) {columns : List String}
    {rows : List PlannedRow} (hcolumns : columns ≠ []) (hrows : rows ≠ []) :
    (∃ error, .error error ∈ writes anchors columns rows) ↔ ¬ Fits anchors columns rows := by
  have hrowsLen := List.length_pos_iff.mpr hrows
  have hcolumnsLen := List.length_pos_iff.mpr hcolumns
  have hlocate (anchor : Cell) (row col : Nat) :
      (∃ error, anchor.locate row col = .error error) ↔
        ¬ (anchor.row + row ≤ 4294967295 ∧ anchor.col + col ≤ 65535) := by
    have h := Cell.exists_locate_eq_ok_iff anchor row col
    cases hplace : anchor.locate row col with
    | ok c =>
      have := h.mp ⟨c, hplace⟩
      simp only [reduceCtorEq, exists_false, false_iff, Decidable.not_not]
      omega
    | error error =>
      simp only [hplace, reduceCtorEq, exists_false, false_iff] at h
      simp only [Except.error.injEq, exists_eq', true_iff]
      omega
  have hheader := anchors.headerStart.row_lt
  simp only [writes, List.mem_append, List.mem_flatMap, Prod.exists,
    List.mk_mem_zipIdx_iff_getElem?, error_mem_rowWrites_iff]
  constructor
  · intro hex
    rcases hex with ⟨error, ⟨col, hcol, h⟩ | ⟨row, index, hrow, col, hcol, h⟩⟩
    · have := (hlocate _ _ _).mp ⟨error, h⟩
      unfold Fits
      omega
    · have := (hlocate _ _ _).mp ⟨error, h⟩
      obtain ⟨hindex, -⟩ := List.getElem?_eq_some_iff.mp hrow
      unfold Fits
      omega
  · intro hfits
    unfold Fits at hfits
    by_cases hright : anchors.headerStart.col + columns.length - 1 ≤ 65535
    · obtain ⟨error, h⟩ := (hlocate anchors.dataStart (rows.length - 1) (columns.length - 1)).mpr
        (by omega)
      exact ⟨error, .inr ⟨rows[rows.length - 1], rows.length - 1, by simp,
        columns.length - 1, by omega, h⟩⟩
    · obtain ⟨error, h⟩ := (hlocate anchors.headerStart 0 (columns.length - 1)).mpr (by omega)
      exact ⟨error, .inl ⟨columns.length - 1, by omega, h⟩⟩

/-- A missing place is out of bounds. -/
theorem exists_eq_outOfBounds_of_mem_writes {anchors : Anchors} {columns : List String}
    {rows : List PlannedRow} {error : ReportError}
    (h : .error error ∈ writes anchors columns rows) :
    ∃ anchor down right, error = .outOfBounds anchor down right := by
  simp only [writes, List.mem_append, List.mem_flatMap, Prod.exists, error_mem_rowWrites_iff] at h
  rcases h with ⟨col, -, h⟩ | ⟨row, index, -, col, -, h⟩
  · exact ⟨_, _, _, Cell.eq_outOfBounds_of_locate h⟩
  · exact ⟨_, _, _, Cell.eq_outOfBounds_of_locate h⟩

/-- A layout that succeeds has found its anchors and names for all its tags, and leaves the
planned rows over the template. -/
theorem render_eq_ok {template g : Grid} {columns : List String} {groups : List (List Record)}
    {extent : Extent} (hcolumns : columns ≠ [])
    (h : render template columns groups = (g, .ok extent)) :
    ∃ anchors, template.anchors = .ok anchors ∧ (∀ c ∈ columns, Tag.isEncodable c = true) ∧
      Rendered template anchors columns (PlannedRow.plan groups) g extent := by
  unfold render at h
  split at h
  · simp at h
  · rename_i anchors hanchors
    split at h
    · simp at h
    · rename_i hfind
      have hencodable : ∀ c ∈ columns, Tag.isEncodable c = true := by
        simpa using List.find?_eq_none.mp hfind
      dsimp only at h
      split at h
      · simp at h
      · rename_i written hwritten
        simp only [Prod.mk.injEq] at h
        obtain ⟨rfl, hextent⟩ := h
        have hrows : PlannedRow.plan groups ≠ [] := by
          have := PlannedRow.two_le_length_plan groups
          exact List.length_pos_iff.mp (by omega)
        exact ⟨anchors, hanchors, hencodable, rendered_of_setUntil hcolumns hrows hwritten hextent⟩

/-- A column without a tag is reported before anything is written. -/
theorem render_of_not_isEncodable {template : Grid} {anchors : Anchors} {columns : List String}
    (groups : List (List Record)) (hanchors : template.anchors = .ok anchors)
    (h : ∃ c ∈ columns, Tag.isEncodable c = false) :
    ∃ column ∈ columns, Tag.isEncodable column = false ∧
      render template columns groups = (template, .error (.unencodableColumn column)) := by
  cases hfind : columns.find? fun c => !Tag.isEncodable c with
  | none =>
    obtain ⟨c, hc, hfalse⟩ := h
    have := List.find?_eq_none.mp hfind c hc
    simp [hfalse] at this
  | some column =>
    refine ⟨column, List.mem_of_find?_eq_some hfind, by simpa using List.find?_some hfind, ?_⟩
    simp [render, hanchors, hfind]

/-- Columns that all have tags are laid out exactly when the report fits on the sheet. -/
theorem render_of_isEncodable {template : Grid} {anchors : Anchors} {columns : List String}
    (groups : List (List Record)) (hcolumns : columns ≠ [])
    (hanchors : template.anchors = .ok anchors)
    (hencodable : ∀ c ∈ columns, Tag.isEncodable c = true) :
    (Fits anchors columns (PlannedRow.plan groups) →
      ∃ g extent, render template columns groups = (g, .ok extent)) ∧
    (¬ Fits anchors columns (PlannedRow.plan groups) →
      ∃ g anchor down right,
        render template columns groups = (g, .error (.outOfBounds anchor down right))) := by
  have hlength := PlannedRow.two_le_length_plan groups
  have hrows : PlannedRow.plan groups ≠ [] := List.length_pos_iff.mp (by omega)
  have hfind : (columns.find? fun c => !Tag.isEncodable c) = none := by
    simpa using hencodable
  have herrors := exists_error_mem_writes_iff anchors hcolumns hrows
  cases hrun : template.setUntil (writes anchors columns (PlannedRow.plan groups)) with
  | mk g result =>
    cases result with
    | ok _ =>
      have hrender : render template columns groups =
          (g, Layout.extent anchors columns (PlannedRow.plan groups)) := by
        simp [render, hanchors, hfind, hrun]
      obtain ⟨done, hdone, -⟩ := Grid.setUntil_eq_ok_iff.mp hrun
      have hfits : Fits anchors columns (PlannedRow.plan groups) := by
        refine Decidable.not_not.mp fun hnot => ?_
        obtain ⟨error, herror⟩ := herrors.mpr hnot
        rw [hdone] at herror
        simp at herror
      refine ⟨fun _ => ?_, fun hnot => absurd hfits hnot⟩
      obtain ⟨last, hlast⟩ := (Cell.exists_locate_eq_ok_iff anchors.dataStart
        ((PlannedRow.plan groups).length - 1) (columns.length - 1 : Nat)).mpr (by
          have hcolumnsLen := List.length_pos_iff.mpr hcolumns
          unfold Fits at hfits
          omega)
      exact ⟨g, ⟨anchors.dataStart, last⟩, by rw [hrender, Layout.extent, hlast]; rfl⟩
    | error error =>
      have hmem := Grid.exists_of_setUntil_eq_error hrun
      obtain ⟨anchor, down, right, rfl⟩ := exists_eq_outOfBounds_of_mem_writes hmem
      have hnot := herrors.mp ⟨_, hmem⟩
      refine ⟨fun hfits => absurd hfits hnot, fun _ => ⟨g, anchor, down, right, ?_⟩⟩
      simp [render, hanchors, hfind, hrun]

end Layout

end SheetReport
