import SheetReport.Sheet.Extent
import SheetReport.Sheet.Value
import SheetReport.Style.CellStyle
import SheetReport.Workbook.StylePart
import SheetReport.Workbook.TimeFormat

/-!
# Workbooks as they are stored

A stored sheet holds the contents of its cells together with their formats, the widths of
columns, merged ranges and the place of a picture. A workbook is described by contents with
numbers of formats and a styles part; `Workbook.ofSource?` resolves the numbers.
-/

namespace SheetReport

/-- What a stored cell holds. -/
inductive Content where
  | blank
  | text (s : String)
  | number (x : Double)
  | bool (b : Bool)
  /-- The text of an error. -/
  | error (s : String)
  /-- A date written as text. -/
  | iso (s : String)
  /-- A formula without its leading `=`, and the number it had when it was stored. -/
  | formula (s : String) (result : Option Double)
  /-- A text that spoils the table of strings. -/
  | unreadable
deriving DecidableEq, Inhabited

/-- A stored cell. -/
structure StoredCell where
  content : Content
  format : CellFormat := {}
  /-- Whether a number in the cell is a moment. -/
  isTime : Bool := false
  border : Edges := {}
  /-- The rotation of the text in degrees. -/
  rotation : Nat := 0
deriving DecidableEq, Inhabited

/-- A stored sheet. -/
structure StoredSheet where
  name : String
  cells : OrderedMap Cell StoredCell := .empty
  /-- The widths of columns that have one of their own. -/
  widths : OrderedMap Nat Float := .empty
  merges : List Extent := []
  picture : Option Cell := none
deriving Inhabited

/-- A stored workbook. -/
structure Workbook where
  sheets : List StoredSheet
  /-- Whether the formats of cells can be read. -/
  hasFormats : Bool := true
deriving Inhabited

/-- A cell with the number of its format in the styles part. -/
structure SourceCell where
  content : Content
  style : Option Nat := none

/-- A sheet whose cells refer to a styles part. -/
structure SourceSheet where
  name : String
  cells : List (Cell × SourceCell)
  widths : List (Nat × Float)

namespace Workbook

/-- The errors that a cell can show. -/
def knownErrors : List String :=
  ["#DIV/0!", "#N/A", "#NAME?", "#NULL!", "#NUM!", "#REF!", "#VALUE!"]

/-- A cell with its format. -/
def resolveCell (formats : List CellFormat) (times : List Bool) (c : SourceCell) : StoredCell :=
  { content := c.content
    format := (c.style.bind fun i => formats[i]?).getD {}
    isTime := (c.style.bind fun i => times[i]?).getD false }

/-- A sheet with the formats of its cells. -/
def resolveSheet (formats : List CellFormat) (times : List Bool) (s : SourceSheet) :
    StoredSheet :=
  { name := s.name
    cells := .ofList (s.cells.map fun c => (c.1, resolveCell formats times c.2))
    widths := .ofList s.widths }

/-- The workbook of sheets that refer to a styles part; none if the part cannot be read at
all. A part that can be read only in part gives no formats. -/
def ofSource? (sheets : List SourceSheet) (styles : String) : Option Workbook :=
  (TimeFormat.ofText? styles).map fun times =>
    match StylePart.formats styles with
    | .ok formats => { sheets := sheets.map (resolveSheet formats times) }
    | .error _ => { sheets := sheets.map (resolveSheet [] times), hasFormats := false }

/-- The workbook of sheets whose formats are the usual ones: general, date and duration. -/
def ofPlainSource (sheets : List SourceSheet) : Workbook :=
  let formats : List CellFormat :=
    [{}, { number := some (.builtin 14) }, { number := some (.builtin 46) }]
  { sheets := sheets.map (resolveSheet formats [false, true, true]) }

end Workbook

namespace StoredSheet

/-- The formats of a sheet as a template has them. -/
def formats (s : StoredSheet) : SheetFormats :=
  { cells := .ofList
      ((s.cells.entries.map fun c => (c.1, c.2.format)).filter fun c => !c.2.isDefault)
    widths := s.widths }

/-- The cells with a border or a rotated text. -/
def marked (s : StoredSheet) : List (Cell × StoredCell) :=
  s.cells.entries.filter fun c => c.2.border != {} || c.2.rotation != 0

end StoredSheet

end SheetReport
