import SheetReport.Report.RowPlan
import SheetReport.Scan
import SheetReport.Sheet.Extent

/-!
# Laying out the rows of a report

Column names are written from the header anchor to the right, and the planned rows from the
data anchor down. Subtotal, total and closing rows hold tags, which are resolved later.
-/

namespace SheetReport

/-- What a missing value is shown as. -/
def notAvailable : String := "n/a"

/-- The value that a planned row has in a column. -/
def PlannedRow.cellValue (index : Nat) (column : String) : PlannedRow → Value
  | .data r => if (r.get index).isEmpty then .text notAvailable else r.get index
  | .blank => .empty
  | .subtotal size => .text (Tag.subtotal size column).text
  | .total => .text (Tag.total column).text
  | .decorative => .text (Tag.decorative Tag.totalBar).text

namespace Grid

/-- Write values until a place is missing. -/
def setUntil (g : Grid) :
    List (Except ReportError (Cell × Value)) → Grid × Except ReportError Unit
  | [] => (g, .ok ())
  | .error error :: _ => (g, .error error)
  | .ok (cell, value) :: rest => (g.set cell value).setUntil rest

end Grid

namespace Layout

/-- The places and values of one row of cells, to the right of an offset from an anchor. -/
def rowWrites (anchor : Cell) (row : Nat) (columns : List String)
    (value : Nat → String → Value) : List (Except ReportError (Cell × Value)) :=
  columns.zipIdx.map fun (name, col) => (anchor.locate row col).map (·, value col name)

/-- The places and values of a report. -/
def writes (anchors : Anchors) (columns : List String) (rows : List PlannedRow) :
    List (Except ReportError (Cell × Value)) :=
  rowWrites anchors.headerStart 0 columns (fun _ name => .text name) ++
    rows.zipIdx.flatMap fun (row, index) =>
      rowWrites anchors.dataStart index columns fun col name => row.cellValue col name

/-- The rectangle of a report's rows. -/
def extent (anchors : Anchors) (columns : List String) (rows : List PlannedRow) :
    Except ReportError Extent :=
  (anchors.dataStart.locate ((rows.length : Int) - 1) ((columns.length - 1 : Nat) : Int)).map
    fun last => ⟨anchors.dataStart, last⟩

/-- Lay out groups of records in a grid. Anchors and column names are checked before anything
is written; if a place is missing, the values written before it stay. -/
def render (g : Grid) (columns : List String) (groups : List (List Record)) :
    Grid × Except ReportError Extent :=
  match g.anchors with
  | .error error => (g, .error error)
  | .ok anchors =>
    match columns.find? fun c => !Tag.isEncodable c with
    | some column => (g, .error (.unencodableColumn column))
    | none =>
      let rows := PlannedRow.plan groups
      match g.setUntil (writes anchors columns rows) with
      | (g, .error error) => (g, .error error)
      | (g, .ok ()) => (g, extent anchors columns rows)

end Layout

end SheetReport
