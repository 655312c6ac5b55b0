import SheetReport.Sheet.Cell
import SheetReport.Tag

/-!
# Why a report cannot be assembled
-/

namespace SheetReport

/-- A reason to give up a report. -/
inductive ReportError where
  /-- Structural anchors that the template lacks. -/
  | missingAnchor (names : List String)
  /-- No identifier in the text of a record, which is given by its place in the input. -/
  | unidentified (record : Nat) (text : String)
  | undecodableTag (cell : Cell) (error : TagError)
  | unencodableColumn (column : String)
  /-- A cell in the reach of two subtotals. -/
  | ambiguousCell (cell first second : Cell)
  | outOfBounds (anchor : Cell) (rows cols : Int)
  | missingColumn (column : String)
deriving DecidableEq, Repr

/-- The wording of the error. -/
def ReportError.message : ReportError → String
  | .missingAnchor names => "Missing anchor tag(s) in template: " ++ ", ".intercalate names
  | .unidentified record text =>
    s!"Cannot derive a group identifier for record {record} from {Text.quoted text}"
  | .undecodableTag cell error => s!"Undecodable tag at {cell.name}: {error.message}"
  | .unencodableColumn column => s!"Column name {Text.quoted column} cannot be encoded in a tag"
  | .ambiguousCell cell first second =>
    s!"Cell {cell.name} is covered by both the subtotal at {first.name} and " ++
      s!"the subtotal at {second.name}"
  | .outOfBounds anchor rows cols =>
    s!"Offset ({rows}, {cols}) from {anchor.name} falls outside the sheet"
  | .missingColumn column => "Column not found: " ++ column

/-- The cell some rows and columns away from an anchor. -/
def Cell.locate (anchor : Cell) (rows cols : Int) : Except ReportError Cell :=
  match anchor.offset? rows cols with
  | some cell => .ok cell
  | none => .error (.outOfBounds anchor rows cols)

end SheetReport
