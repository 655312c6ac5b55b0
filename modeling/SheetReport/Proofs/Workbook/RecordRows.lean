import Mathlib.Data.Finset.Max
import Mathlib.Data.List.Sort
import SheetReport.Files.Store
import SheetReport.Proofs.Records.Table
import SheetReport.Proofs.Sequence
import SheetReport.Sheet.Extent
import SheetReport.Workbook.Loading

/-!
# Records are aligned with the box of a sheet

The box of a sheet is the smallest rectangle around the cells that hold something, if only an
empty text. Its first row names the columns and each later row with such a cell is a record, whose
values stand under the columns of the box. The reader knows no rectangle: it takes the rows of
the cells that it finds, and looks up each column among the cells of a row. The cells of a sheet
are listed row by row, so their rows, each taken once, are the rows of the box with something in
them, in their order.

Main statements: `rowsOf_filled` and `valueAt_filled` for what the reader collects,
`records_eq_tableIn`, and `loaded_records_are_aligned` for the workbook at a path.
-/

namespace SheetReport

/-- Numbers that never decrease grow once repetitions are left out. -/
theorem pairwise_lt_eraseDups {l : List Nat} (h : l.Pairwise (· ≤ ·)) :
    l.eraseDups.Pairwise (· < ·) := by
  match l, h with
  | [], _ => exact .nil
  | n :: rest, h =>
    obtain ⟨hn, hrest⟩ := List.pairwise_cons.mp h
    rw [List.eraseDups_cons, List.pairwise_cons]
    refine ⟨fun m hm => ?_, pairwise_lt_eraseDups (hrest.sublist List.filter_sublist)⟩
    obtain ⟨hmem, hnew⟩ := List.mem_filter.mp (List.mem_eraseDups.mp hm)
    have hne : m ≠ n := by simpa using hnew
    exact Nat.lt_of_le_of_ne (hn m hmem) hne.symm
termination_by l.length
decreasing_by exact Nat.lt_succ_of_le (List.length_filter_le _ _)

/-- A record of the right width is left as it is. -/
theorem Record.fit_eq_self {r : Record} {width : Nat} (h : r.values.length = width) :
    r.fit width = r := by
  rw [fit, ← h, List.take_length, Nat.sub_self, List.replicate_zero, List.append_nil]

/-- Rows as wide as the columns are appended as they are. -/
theorem Records.foldl_push {columns : List String} {rows : List (List Value)}
    (h : ∀ row ∈ rows, row.length = columns.length) (done : List Record) :
    rows.foldl (fun set row => set.push ⟨row⟩) (Records.mk columns done) =
      ⟨columns, done ++ rows.map Record.mk⟩ := by
  induction rows generalizing done with
  | nil => rw [List.foldl_nil, List.map_nil, List.append_nil]
  | cons row rest ih =>
    have hfit : (Record.mk row).fit columns.length = ⟨row⟩ :=
      Record.fit_eq_self (h row List.mem_cons_self)
    rw [List.foldl_cons, push, hfit, ih fun r hr => h r (List.mem_cons_of_mem _ hr),
      List.map_cons, List.append_assoc, List.singleton_append]

namespace StoredCell

/-- Whether a cell holds nothing that can be read: it is blank, or its formula has no result. -/
def isBlank (c : StoredCell) : Bool :=
  match c.content with
  | .blank | .formula _ none => true
  | _ => false

/-- Something is read from a cell that is not blank. -/
theorem value?_eq_none_iff {c : StoredCell} (h : c.isReadable = true) :
    c.value? = none ↔ c.isBlank = true := by
  unfold isReadable at h
  unfold value? isBlank
  cases hcontent : c.content with
  | formula s result => cases result <;> simp
  | unreadable => simp [hcontent] at h
  | _ => simp

/-- A stored number is read as something. -/
theorem numberValue_ne_empty (isTime : Bool) (x : Double) : numberValue isTime x ≠ .empty := by
  unfold numberValue
  cases isTime with
  | false => simp
  | true => cases Calendar.DateTime.ofSerial? x.toFloat <;> simp

/-- A date written as text is read as something. -/
theorem isoValue_ne_empty (s : String) : isoValue s ≠ .empty := by
  unfold isoValue
  split <;> simp

/-- An empty value is read from what is blank and from an empty text only. -/
theorem value?_getD_eq_empty_iff {c : StoredCell} (h : c.isReadable = true) :
    c.value?.getD .empty = .empty ↔
      c.content = .blank ∨ c.content = .text "" ∨ ∃ s, c.content = .formula s none := by
  unfold isReadable at h
  unfold value?
  cases hcontent : c.content with
  | text s => by_cases hs : s = "" <;> simp [hs]
  | number x => simp [numberValue_ne_empty]
  | iso s => simp [isoValue_ne_empty]
  | formula s result => cases result <;> simp [numberValue_ne_empty]
  | unreadable => simp [hcontent] at h
  | _ => simp

end StoredCell

namespace StoredSheet

variable {s : StoredSheet} {box : Extent} {row col : Nat}

/-- What is stored at a row and a column. -/
def storedAt (s : StoredSheet) (row col : Nat) : StoredCell :=
  ((Cell.ofNat? row col).bind s.cells.get?).getD { content := .blank }

/-- Whether there is something at a row and a column, if only an empty text. -/
def isFilled (s : StoredSheet) (row col : Nat) : Bool := !(s.storedAt row col).isBlank

/-- The value that is read at a row and a column. -/
def readAt (s : StoredSheet) (row col : Nat) : Value := (s.storedAt row col).value?.getD .empty

/-- The smallest rectangle around everything in a sheet: all of it is inside, and some of it is
in the first and in the last row and column. -/
structure IsBox (s : StoredSheet) (box : Extent) : Prop where
  inside : ∀ row col, s.isFilled row col = true → row ∈ box.rowRange ∧ col ∈ box.columnRange
  top : ∃ col, s.isFilled box.first.row col = true
  bottom : ∃ col, s.isFilled box.last.row col = true
  left : ∃ row, s.isFilled row box.first.col = true
  right : ∃ row, s.isFilled row box.last.col = true

/-- Whether a rectangle has something in a row. -/
def fillsRow (s : StoredSheet) (box : Extent) (row : Nat) : Bool :=
  box.columnRange.any (s.isFilled row)

/-- The table in a rectangle of a sheet: the first row names the columns, and each later row with
something in it is a record. -/
def tableIn (s : StoredSheet) (box : Extent) : Records where
  columns := box.columnRange.map fun col => (s.readAt box.first.row col).print
  records := (box.rowRange.tail.filter (s.fillsRow box)).map fun row =>
    ⟨box.columnRange.map (s.readAt row)⟩

/-! ### What the reader finds -/

/-- The filled cells are listed row by row. -/
theorem pairwise_filled (s : StoredSheet) :
    s.filled.Pairwise fun a b => a.1.index < b.1.index := by
  refine s.cells.sorted.filterMap _ fun a b hlt e he e' he' => ?_
  obtain ⟨v, -, rfl⟩ := Option.map_eq_some_iff.mp he
  obtain ⟨v', -, rfl⟩ := Option.map_eq_some_iff.mp he'
  exact Nat.compare_eq_lt.mp hlt

/-- What is stored at the row and the column of a cell. -/
theorem storedAt_cell (s : StoredSheet) (c : Cell) :
    s.storedAt c.row c.col = (s.cells.get? c).getD { content := .blank } := by
  rw [storedAt, Cell.ofNat?, dif_pos ⟨c.row_lt, c.col_lt⟩, Option.bind_some]

/-- The filled cells are those that something is read from. -/
theorem mem_filled_iff {c : Cell} {v : Value} :
    (c, v) ∈ s.filled ↔ (s.storedAt c.row c.col).value? = some v := by
  rw [storedAt_cell, filled, List.mem_filterMap]
  constructor
  · intro hmem
    obtain ⟨e, he, hv⟩ := hmem
    obtain ⟨v', hv', heq⟩ := Option.map_eq_some_iff.mp hv
    obtain ⟨rfl, rfl⟩ := Prod.mk.inj heq
    rw [OrderedMap.get?_eq_some_iff.mpr he, Option.getD_some, hv']
  · intro hv
    cases hstored : s.cells.get? c with
    | none =>
      rw [hstored] at hv
      contradiction
    | some stored =>
      rw [hstored, Option.getD_some] at hv
      exact ⟨(c, stored), OrderedMap.get?_eq_some_iff.mp hstored, by rw [hv, Option.map_some]⟩

/-- What is stored anywhere in a sheet can be read if all cells of the sheet can be. -/
theorem isReadable_storedAt (h : s.isReadable = true) (row col : Nat) :
    (s.storedAt row col).isReadable = true := by
  unfold storedAt
  cases hstored : (Cell.ofNat? row col).bind s.cells.get? with
  | none => rfl
  | some stored =>
    obtain ⟨c, -, hc⟩ := Option.bind_eq_some_iff.mp hstored
    exact List.all_eq_true.mp h _ (OrderedMap.get?_eq_some_iff.mp hc)

/-- There is something exactly where a filled cell is listed. -/
theorem isFilled_iff (h : s.isReadable = true) :
    s.isFilled row col = true ↔ ∃ e ∈ s.filled, e.1.row = row ∧ e.1.col = col := by
  rw [isFilled, Bool.not_eq_true', ← Bool.not_eq_true,
    ← StoredCell.value?_eq_none_iff (isReadable_storedAt h row col), ← Ne,
    Option.ne_none_iff_exists']
  constructor
  · intro hvalue
    obtain ⟨v, hv⟩ := hvalue
    cases hcell : Cell.ofNat? row col with
    | none =>
      rw [storedAt, hcell] at hv
      contradiction
    | some c =>
      obtain ⟨hlt, heq⟩ := Option.dite_none_right_eq_some.mp hcell
      obtain rfl := Option.some.inj heq
      exact ⟨(⟨row, col, hlt.1, hlt.2⟩, v), mem_filled_iff.mpr hv, rfl, rfl⟩
  · intro hmem
    obtain ⟨e, he, rfl, rfl⟩ := hmem
    exact ⟨e.2, mem_filled_iff.mp he⟩

/-- There is something at each listed cell. -/
theorem isFilled_of_mem (h : s.isReadable = true) {e : Cell × Value} (he : e ∈ s.filled) :
    s.isFilled e.1.row e.1.col = true := (isFilled_iff h).mpr ⟨e, he, rfl, rfl⟩

/-- The rows of filled cells are those with something in them, top down. -/
theorem rowsOf_filled (h : s.isReadable = true) (hbox : s.IsBox box) :
    rowsOf s.filled = box.rowRange.filter (s.fillsRow box) := by
  have hrows : (s.filled.map fun e => e.1.row).Pairwise (· ≤ ·) := by
    refine List.pairwise_map.mpr ((pairwise_filled s).imp fun {a b} hlt => ?_)
    have hcol := a.1.col_lt
    have hcol' := b.1.col_lt
    unfold Cell.index at hlt
    omega
  refine (pairwise_lt_eraseDups hrows).eq_of_mem_iff
    ((List.pairwise_lt_range' 1).sublist List.filter_sublist) fun row => ?_
  rw [List.mem_eraseDups, List.mem_map, List.mem_filter, fillsRow, List.any_eq_true]
  constructor
  · intro hmem
    obtain ⟨e, he, rfl⟩ := hmem
    have hfilled := isFilled_of_mem h he
    obtain ⟨hrow, hcol⟩ := hbox.inside _ _ hfilled
    exact ⟨hrow, _, hcol, hfilled⟩
  · intro hmem
    obtain ⟨-, col, -, hfilled⟩ := hmem
    obtain ⟨e, he, hrow, -⟩ := (isFilled_iff h).mp hfilled
    exact ⟨e, he, hrow⟩

/-- The columns of filled cells are those of the box. -/
theorem columnRange_filled (h : s.isReadable = true) (hbox : s.IsBox box) :
    columnRange s.filled = box.columnRange := by
  have hbetween (e : Cell × Value) (he : e ∈ s.filled) :
      box.first.col ≤ e.1.col ∧ e.1.col ≤ box.last.col := by
    obtain ⟨-, hcol⟩ := hbox.inside _ _ (isFilled_of_mem h he)
    rw [Extent.columnRange, List.mem_range'_1, Extent.columns] at hcol
    omega
  have hmin : (s.filled.map fun e => e.1.col).min? = some box.first.col := by
    obtain ⟨row, hleft⟩ := hbox.left
    obtain ⟨e, he, -, hcol⟩ := (isFilled_iff h).mp hleft
    refine List.min?_eq_some_iff.mpr ⟨List.mem_map.mpr ⟨e, he, hcol⟩, fun col hmem => ?_⟩
    obtain ⟨e', he', rfl⟩ := List.mem_map.mp hmem
    exact (hbetween e' he').1
  have hmax : (s.filled.map fun e => e.1.col).max? = some box.last.col := by
    obtain ⟨row, hright⟩ := hbox.right
    obtain ⟨e, he, -, hcol⟩ := (isFilled_iff h).mp hright
    refine List.max?_eq_some_iff.mpr ⟨List.mem_map.mpr ⟨e, he, hcol⟩, fun col hmem => ?_⟩
    obtain ⟨e', he', rfl⟩ := List.mem_map.mp hmem
    exact (hbetween e' he').2
  rw [columnRange]
  simp only [hmin, hmax]
  rfl

/-- The value of a column among the filled cells of a row is the one that is read there. -/
theorem valueAt_filled (h : s.isReadable = true) (row col : Nat) :
    valueAt (s.filled.filter fun c => c.1.row == row) row col = s.readAt row col := by
  unfold valueAt readAt
  cases hfound : (s.filled.filter fun c => c.1.row == row).find? fun c =>
      c.1.row == row && c.1.col == col with
  | some e =>
    have hat := List.find?_some hfound
    simp only [Bool.and_eq_true, beq_iff_eq] at hat
    obtain ⟨rfl, rfl⟩ := hat
    have hmem := List.mem_of_mem_filter (List.mem_of_find?_eq_some hfound)
    rw [mem_filled_iff.mp hmem, Option.map_some]
  | none =>
    have hempty : s.isFilled row col ≠ true := by
      rw [Ne, isFilled_iff h]
      rintro ⟨e, he, rfl, rfl⟩
      exact List.find?_eq_none.mp hfound e (List.mem_filter.mpr ⟨he, by simp⟩) (by simp)
    have hblank : (s.storedAt row col).isBlank = true := by
      simpa [isFilled] using hempty
    rw [(StoredCell.value?_eq_none_iff (isReadable_storedAt h row col)).mpr hblank]
    rfl

/-- Around everything in a sheet there is a box, between the outermost filled cells. -/
theorem exists_isBox (h : s.isReadable = true) (hfilled : s.isFilled row col = true) :
    ∃ box, s.IsBox box := by
  obtain ⟨e, he, -, -⟩ := (isFilled_iff h).mp hfilled
  have hsome : s.filled.toFinset.Nonempty := ⟨e, List.mem_toFinset.mpr he⟩
  obtain ⟨top, htop, hrowMin⟩ := Finset.exists_min_image _ (fun e => e.1.row) hsome
  obtain ⟨bottom, hbottom, hrowMax⟩ := Finset.exists_max_image _ (fun e => e.1.row) hsome
  obtain ⟨left, hleft, hcolMin⟩ := Finset.exists_min_image _ (fun e => e.1.col) hsome
  obtain ⟨right, hright, hcolMax⟩ := Finset.exists_max_image _ (fun e => e.1.col) hsome
  simp only [List.mem_toFinset] at htop hbottom hleft hright hrowMin hrowMax hcolMin hcolMax
  refine ⟨⟨⟨top.1.row, left.1.col, top.1.row_lt, left.1.col_lt⟩,
    ⟨bottom.1.row, right.1.col, bottom.1.row_lt, right.1.col_lt⟩⟩, ?_, ?_, ?_, ?_, ?_⟩
  · intro row col hat
    obtain ⟨e, he, rfl, rfl⟩ := (isFilled_iff h).mp hat
    have htop := hrowMin e he
    have hbottom := hrowMax e he
    have hleft := hcolMin e he
    have hright := hcolMax e he
    simp only [Extent.rowRange, Extent.columnRange, Extent.rows, Extent.columns,
      List.mem_range'_1]
    omega
  · exact ⟨top.1.col, isFilled_of_mem h htop⟩
  · exact ⟨bottom.1.col, isFilled_of_mem h hbottom⟩
  · exact ⟨left.1.row, isFilled_of_mem h hleft⟩
  · exact ⟨right.1.row, isFilled_of_mem h hright⟩

/-- The first row of a box is its header, and it has something in it. -/
theorem filter_rowRange (hbox : s.IsBox box) :
    box.rowRange.filter (s.fillsRow box) =
      box.first.row :: box.rowRange.tail.filter (s.fillsRow box) := by
  obtain ⟨col, htop⟩ := hbox.top
  obtain ⟨hrow, hcol⟩ := hbox.inside _ _ htop
  have hfirst : s.fillsRow box box.first.row = true := List.any_eq_true.mpr ⟨col, hcol, htop⟩
  have hcons : box.rowRange = box.first.row :: box.rowRange.tail := by
    rw [Extent.rowRange, List.mem_range'_1] at hrow
    obtain ⟨n, hn⟩ : ∃ n, box.rows = n + 1 := ⟨box.rows - 1, by omega⟩
    rw [Extent.rowRange, hn, List.range'_succ, List.tail_cons]
  conv_lhs => rw [hcons]
  rw [List.filter_cons_of_pos hfirst]

/-- The records of a sheet are the table in its box. -/
theorem records_eq_tableIn (h : s.isReadable = true) (hbox : s.IsBox box) :
    s.records = s.tableIn box := by
  have hrows : s.rows = (box.first.row :: box.rowRange.tail.filter (s.fillsRow box)).map fun row =>
      box.columnRange.map (s.readAt row) := by
    rw [rows, rowsOf_filled h hbox, filter_rowRange hbox, columnRange_filled h hbox]
    simp only [valueAt_filled h]
  rw [records, hrows, List.map_cons, tableIn]
  dsimp only
  rw [Records.foldl_push, List.nil_append, List.map_map, List.map_map]
  · rfl
  · intro row hmem
    obtain ⟨r, -, rfl⟩ := List.mem_map.mp hmem
    rw [List.length_map, List.length_map, List.length_map]

/-- Nothing is loaded from a sheet with nothing in it. -/
theorem records_eq_nil (h : s.isReadable = true)
    (hblank : ∀ row col, s.isFilled row col = false) : s.records = ⟨[], []⟩ := by
  have hfilled : s.filled = [] := by
    refine List.eq_nil_iff_forall_not_mem.mpr fun e he => ?_
    have hsome := isFilled_of_mem h he
    rw [hblank] at hsome
    contradiction
  rw [records, rows, hfilled]
  rfl

/-- Each record of a table has a value for each column. -/
theorem isRectangular_tableIn (s : StoredSheet) (box : Extent) :
    (s.tableIn box).IsRectangular := by
  intro r hr
  obtain ⟨row, -, rfl⟩ := List.mem_map.mp hr
  rw [tableIn, List.length_map, List.length_map]

end StoredSheet

namespace Workbook

/-- A sheet is missing from a workbook exactly if no sheet has its name. -/
theorem records_eq_missingSheet_iff {w : Workbook} {path sheet name place : String} :
    w.records path sheet = .error (.missingSheet name place) ↔
      (∀ s ∈ w.sheets, s.name ≠ sheet) ∧ name = sheet ∧ place = path := by
  unfold records
  cases hfound : w.sheets.find? fun s => s.name == sheet with
  | none =>
    have hmissing := List.find?_eq_none.mp hfound
    simp only [beq_iff_eq] at hmissing
    constructor
    · intro herror
      obtain ⟨rfl, rfl⟩ := WorkbookError.missingSheet.inj (Except.error.inj herror)
      exact ⟨hmissing, rfl, rfl⟩
    · rintro ⟨-, rfl, rfl⟩
      rfl
  | some s =>
    have hname : s.name = sheet := by simpa using List.find?_some hfound
    constructor
    · intro herror
      dsimp only at herror
      split at herror <;> simp at herror
    · intro hmissing
      exact absurd hname (hmissing.1 s (List.mem_of_find?_eq_some hfound))

/-- What is not opened as a workbook is read in vain. -/
theorem eq_read_of_workbook_eq_error {files : FileStore} {path : String} {error : WorkbookError}
    (h : files.workbook path = .error error) : error = .read := by
  unfold FileStore.workbook at h
  split at h
  · split at h
    · exact (Except.error.inj h).symm
    · contradiction
  · exact (Except.error.inj h).symm

/-- A sheet is missing exactly if a workbook is opened that has none of its name. -/
theorem load_eq_missingSheet_iff {files : FileStore} {path sheet name place : String} :
    (files.workbook path >>= fun w => w.records path sheet) = .error (.missingSheet name place) ↔
      (∃ w, files.workbook path = .ok w ∧ ∀ s ∈ w.sheets, s.name ≠ sheet) ∧
        name = sheet ∧ place = path := by
  rw [bind_eq_error_iff]
  constructor
  · rintro (herror | ⟨w, hopen, herror⟩)
    · exact absurd (eq_read_of_workbook_eq_error herror) (by simp)
    · obtain ⟨hmissing, hname, hplace⟩ := records_eq_missingSheet_iff.mp herror
      exact ⟨⟨w, hopen, hmissing⟩, hname, hplace⟩
  · rintro ⟨⟨w, hopen, hmissing⟩, hname, hplace⟩
    exact .inr ⟨w, hopen, records_eq_missingSheet_iff.mpr ⟨hmissing, hname, hplace⟩⟩

/-- Records are loaded aligned with the box of their sheet, wherever it stands and whatever rows
of it are blank. A sheet is missing exactly if a workbook is opened that has none of its name. A
sheet with nothing in it has no columns and no records; around anything else there is a box,
and its table is loaded. An empty value is read from a blank cell, an empty text and a formula
without a result. -/
theorem loaded_records_are_aligned (files : FileStore) (path sheet : String) :
    (∀ name place,
      (files.workbook path >>= fun w => w.records path sheet) =
          .error (.missingSheet name place) ↔
        (∃ w, files.workbook path = .ok w ∧ ∀ s ∈ w.sheets, s.name ≠ sheet) ∧
          name = sheet ∧ place = path) ∧
    ∀ w s, files.workbook path = .ok w → (w.sheets.find? fun s => s.name == sheet) = some s →
      (s.isReadable = false → w.records path sheet = .error .read) ∧
      (s.isReadable = true →
        ((∀ row col, s.isFilled row col = false) → w.records path sheet = .ok ⟨[], []⟩) ∧
        ((∃ row col, s.isFilled row col = true) → ∃ box, s.IsBox box) ∧
        (∀ box, s.IsBox box → w.records path sheet = .ok (s.tableIn box)) ∧
        (∀ box, (s.tableIn box).IsRectangular) ∧
        ∀ row col, s.readAt row col = .empty ↔ (s.storedAt row col).content = .blank ∨
          (s.storedAt row col).content = .text "" ∨
          ∃ f, (s.storedAt row col).content = .formula f none) := by
  refine ⟨fun name place => load_eq_missingSheet_iff, fun w s _ hfound =>
    ⟨fun hfaulty => by simp [records, hfound, hfaulty], fun hreadable => ?_⟩⟩
  have hload : w.records path sheet = .ok s.records := by
    simp only [records, hfound, if_pos hreadable]
  refine ⟨fun hblank => ?_, fun hfilled => ?_, fun box hbox => ?_,
    fun box => s.isRectangular_tableIn box, fun row col => ?_⟩
  · rw [hload, StoredSheet.records_eq_nil hreadable hblank]
  · obtain ⟨row, col, hfilled⟩ := hfilled
    exact StoredSheet.exists_isBox hreadable hfilled
  · rw [hload, StoredSheet.records_eq_tableIn hreadable hbox]
  · exact StoredCell.value?_getD_eq_empty_iff (StoredSheet.isReadable_storedAt hreadable row col)

namespace Scattered

/-- A sheet whose cells stand away from its first row and column: names with a gap between them,
a row of a single empty text, a blank row, and a formula without a result. -/
def sheet : StoredSheet where
  name := "Orders"
  cells := .ofList [(⟨3, 2, by decide, by decide⟩, { content := .text "Line Item" }),
    (⟨3, 4, by decide, by decide⟩, { content := .bool true }),
    (⟨5, 3, by decide, by decide⟩, { content := .text "" }),
    (⟨8, 2, by decide, by decide⟩, { content := .text "ORD-1-1-1" }),
    (⟨8, 3, by decide, by decide⟩, { content := .formula "1+1" none }),
    (⟨8, 5, by decide, by decide⟩, { content := .error "#N/A" }),
    (⟨9, 1, by decide, by decide⟩, { content := .blank })]

/-- The smallest rectangle around the cells. -/
def box : Extent := ⟨⟨3, 2, by decide, by decide⟩, ⟨8, 5, by decide, by decide⟩⟩

/-- The workbook of the sheet and an empty one. -/
def workbook : Workbook := { sheets := [{ name := "Report data" }, sheet] }

/-- The workbook in a file. -/
def files : FileStore := .ofList [("orders.xlsx", .file (.workbook workbook))]

end Scattered

/-- The values of each row stand under the names above them, and rows of blank cells are passed
over; a row of an empty text is not. -/
theorem scattered_table_is_loaded :
    (Scattered.files.workbook "orders.xlsx" = .ok Scattered.workbook ∧
      (Scattered.workbook.sheets.find? fun s => s.name == "Orders") = some Scattered.sheet ∧
      Scattered.sheet.isReadable = true ∧ Scattered.sheet.IsBox Scattered.box) ∧
    Scattered.workbook.records "orders.xlsx" "Orders" =
      .ok ⟨["Line Item", "", "TRUE", ""],
        [⟨[.empty, .empty, .empty, .empty]⟩,
          ⟨[.text "ORD-1-1-1", .empty, .empty, .text "#N/A"]⟩]⟩ := by
  have hopen : Scattered.files.workbook "orders.xlsx" = .ok Scattered.workbook := by rfl
  have hfound : (Scattered.workbook.sheets.find? fun s => s.name == "Orders") =
      some Scattered.sheet := by rfl
  have hreadable : Scattered.sheet.isReadable = true := by decide
  have hbox : Scattered.sheet.IsBox Scattered.box := by
    refine ⟨fun row col hat => ?_, ⟨2, by decide⟩, ⟨2, by decide⟩, ⟨3, by decide⟩,
      ⟨8, by decide⟩⟩
    obtain ⟨e, he, rfl, rfl⟩ := (StoredSheet.isFilled_iff hreadable).mp hat
    revert e
    decide
  obtain ⟨-, haligned⟩ := loaded_records_are_aligned Scattered.files "orders.xlsx" "Orders"
  obtain ⟨-, -, htable, -⟩ := (haligned _ _ hopen hfound).2 hreadable
  refine ⟨⟨hopen, hfound, hreadable, hbox⟩, (htable _ hbox).trans (congrArg Except.ok ?_)⟩
  decide

end Workbook

end SheetReport
