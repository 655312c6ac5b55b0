import SheetReport.Calendar.Reader
import SheetReport.Calendar.Serial
import SheetReport.Records
import SheetReport.Sheet.Grid
import SheetReport.Workbook.Error
import SheetReport.Workbook.Sheet

/-!
# Loading templates and records

A template is the first sheet of a workbook: values and formulas in their cells, and the
formats of the sheet. Values and formulas are read as two ranges, each with a start of its own;
formulas win over their results. Records are the rows of a named sheet between its outermost cells that
are not blank; the first row names the columns, and rows of blank cells are passed over.
-/

namespace SheetReport

open Calendar (Date DateTime)

namespace StoredCell

/-- A stored number as a value; a moment outside the calendar stays a number. -/
def numberValue (isTime : Bool) (x : Double) : Value :=
  if isTime then ((DateTime.ofSerial? x.toFloat).map .dateTime).getD (.number x) else .number x

/-- A date written as text. -/
def isoValue (s : String) : Value :=
  match DateTime.read? s, Date.read? s with
  | some t, _ => .dateTime t
  | none, some d => .date d
  | none, none => .text s

/-- The value of a cell, a formula's result included; none for a blank cell. An empty text is
not blank, although its value is empty. -/
def value? (c : StoredCell) : Option Value :=
  match c.content with
  | .blank | .unreadable => none
  | .text s => some (if s = "" then .empty else .text s)
  | .number x => some (numberValue c.isTime x)
  | .bool b => some (.bool b)
  | .error s => some (.text s)
  | .iso s => some (isoValue s)
  | .formula _ result => result.map (numberValue c.isTime)

/-- The text of the formula in a cell. -/
def formula? (c : StoredCell) : Option String :=
  match c.content with
  | .formula s _ => some s
  | _ => none

/-- Whether the content can be read. -/
def isReadable (c : StoredCell) : Bool :=
  match c.content with
  | .error s => Workbook.knownErrors.contains s
  | .unreadable => false
  | _ => true

end StoredCell

/-- A range of a sheet: where it starts, and what is used in it at which distances from there. -/
structure CellRange (α : Type) where
  row : Nat
  col : Nat
  used : List (Nat × Nat × α)

namespace CellRange

variable {α : Type}

/-- The smallest range around some cells; none without cells. -/
def ofCells? (cells : List (Cell × α)) : Option (CellRange α) :=
  match (cells.map fun c => c.1.row).min?, (cells.map fun c => c.1.col).min? with
  | some row, some col =>
    some ⟨row, col, cells.map fun c => (c.1.row - row, c.1.col - col, c.2)⟩
  | _, _ => none

/-- The cell at some distance from the start of a range, as far as the numbers of rows and columns
reach. -/
def absolute (r : CellRange α) (row col : Nat) : Cell :=
  ⟨(r.row + row) % 4294967296, (r.col + col) % 65536, Nat.mod_lt _ (by decide),
    Nat.mod_lt _ (by decide)⟩

/-- What is used in a range, at the cells of the sheet. -/
def cells (r : CellRange α) : List (Cell × α) := r.used.map fun u => (r.absolute u.1 u.2.1, u.2.2)

end CellRange

/-- The grid of a range of values and a range of formulas, which win over their results. -/
def Grid.ofRanges (values : Option (CellRange Value)) (formulas : Option (CellRange String)) :
    Grid :=
  let g := match values with
    | some range => empty.setAll range.cells
    | none => empty
  match formulas with
  | some range =>
    g.setAll ((range.cells.filter fun f => f.2 != "").map fun f => (f.1, .formula ("=" ++ f.2)))
  | none => g

/-- A template. -/
structure Template where
  sheetName : String
  grid : Grid
  formats : SheetFormats

namespace StoredSheet

/-- Whether the contents of all cells can be read. -/
def isReadable (s : StoredSheet) : Bool := s.cells.entries.all fun c => c.2.isReadable

/-- The values of the cells that are not blank. -/
def filled (s : StoredSheet) : List (Cell × Value) :=
  s.cells.entries.filterMap fun c => c.2.value?.map fun v => (c.1, v)

/-- The texts of formulas. -/
def formulas (s : StoredSheet) : List (Cell × String) :=
  s.cells.entries.filterMap fun c => c.2.formula?.map fun f => (c.1, f)

/-- The values and formulas of a sheet. -/
def grid (s : StoredSheet) : Grid :=
  .ofRanges (CellRange.ofCells? s.filled) (CellRange.ofCells? s.formulas)

/-- The columns from the first to the last of a list of cells. -/
def columnRange (cells : List (Cell × Value)) : List Nat :=
  let columns := cells.map fun c => c.1.col
  match columns.min?, columns.max? with
  | some low, some high => List.range' low (high + 1 - low)
  | _, _ => []

/-- The rows of a list of cells, top down. -/
def rowsOf (cells : List (Cell × Value)) : List Nat := (cells.map fun c => c.1.row).eraseDups

/-- The value at a row and a column among a list of cells. -/
def valueAt (cells : List (Cell × Value)) (row col : Nat) : Value :=
  ((cells.find? fun c => c.1.row == row && c.1.col == col).map Prod.snd).getD .empty

/-- The rows with a cell that is not blank, each over all columns. -/
def rows (s : StoredSheet) : List (List Value) :=
  let cells := s.filled
  (rowsOf cells).map fun row =>
    let inRow := cells.filter fun c => c.1.row == row
    (columnRange cells).map fun col => valueAt inRow row col

/-- The records of a sheet. -/
def records (s : StoredSheet) : Records :=
  match s.rows with
  | [] => ⟨[], []⟩
  | header :: rest =>
    rest.foldl (fun set row => set.push ⟨row⟩) ⟨header.map Value.print, []⟩

end StoredSheet

namespace Workbook

/-- The template in a workbook, which is at a path. -/
def template (w : Workbook) (path : String) : Except WorkbookError Template :=
  match w.sheets with
  | [] => .error (.noWorksheet path)
  | sheet :: _ =>
    if sheet.isReadable then
      .ok ⟨sheet.name, sheet.grid, if w.hasFormats then sheet.formats else {}⟩
    else .error .read

/-- The records in a sheet of a workbook, which is at a path. -/
def records (w : Workbook) (path sheet : String) : Except WorkbookError Records :=
  match w.sheets.find? fun s => s.name == sheet with
  | none => .error (.missingSheet sheet path)
  | some s => if s.isReadable then .ok s.records else .error .read

end Workbook

end SheetReport
