import SheetReport.Report.Assembly
import SheetReport.Style.CellStyle
import SheetReport.Style.Format

/-!
# Style plans

A plan holds everything that is added to the values of an assembled report: formats taken
from the template, styles, merged ranges and a picture. Outside the report each cell keeps
its own format; inside, each column takes the format of its first row.
-/

namespace SheetReport

/-- The settings of styling. -/
structure StyleRules where
  /-- The columns whose cells are merged over each subtotalled group. -/
  mergeColumns : List String :=
    ["Delivery Indicator", "Line item start date", "Line item end date", "Goal quantity"]
  /-- The placeholder that becomes a vertical block beside the report. -/
  orderPlaceholder : String := "order_id"
  /-- The anchor of the picture. -/
  iconPlaceholder : String := "icon"
  icon : Option String := none
  iconSize : Nat := 80
  dateFormat : String := "dd/mm/yyyy"
  totalBarFill : Nat := 0xf2f2f2
deriving DecidableEq, Repr

/-- What is added to the values of a report. -/
structure StylePlan where
  base : OrderedMap Cell CellFormat := .empty
  widths : OrderedMap Nat Float := .empty
  styles : OrderedMap Cell CellStyle := .empty
  merges : List Extent := []
  image : Option (Cell × String) := none
  iconSize : Nat := 0
  dateFormat : String := ""
deriving Inhabited

namespace Cell

/-- The cell of the same column in the row of another cell. -/
def inRowOf (c other : Cell) : Cell := ⟨other.row, c.col, other.row_lt, c.col_lt⟩

end Cell

namespace SheetFormats

/-- One cell of a report with the format of the first row of its column, if that row has one. -/
def carryOne (f : SheetFormats) (first : Cell) (base : OrderedMap Cell CellFormat) (c : Cell) :
    OrderedMap Cell CellFormat :=
  match f.get? (c.inRowOf first) with
  | none => base
  | some source =>
    let format := source.copiedOnto (f.get? c)
    if format.isDefault then base.erase c else base.insert c format

/-- The formats with each column of a report formatted as in its first row. -/
def carried (f : SheetFormats) (extent : Extent) : OrderedMap Cell CellFormat :=
  extent.cells.foldl (f.carryOne extent.first) f.cells

end SheetFormats

namespace StylePlan

/-- The style of a cell. -/
def styleOf (p : StylePlan) (c : Cell) : CellStyle := (p.styles.get? c).getD {}

/-- The template format of a cell. -/
def baseOf? (p : StylePlan) (c : Cell) : Option CellFormat := p.base.get? c

/-- Change the style of a cell. -/
def modify (p : StylePlan) (c : Cell) (change : CellStyle → CellStyle) : StylePlan :=
  { p with styles := p.styles.insert c (change (p.styleOf c)) }

/-- Change the styles of several cells. -/
def modifyAll (p : StylePlan) (cells : List Cell) (change : Cell → CellStyle → CellStyle) :
    StylePlan :=
  cells.foldl (fun p c => p.modify c (change c)) p

/-- The edges of a rectangle that a cell lies on. -/
def edgesIn (e : Extent) (c : Cell) : Edges :=
  ⟨c.row == e.first.row, c.row == e.last.row, c.col == e.first.col, c.col == e.last.col⟩

/-- Draw a border around a rectangle. -/
def outline (p : StylePlan) (e : Extent) : StylePlan :=
  p.modifyAll e.cells fun c s => { s with border := s.border.combine (edgesIn e c) }

/-- The planned range that contains a cell. -/
def mergeAt? (p : StylePlan) (c : Cell) : Option Extent := p.merges.find? (·.contains c)

/-- The plan with one more merged range; none if it overlaps a planned one. -/
def addMerge? (p : StylePlan) (e : Extent) : Option StylePlan :=
  if p.merges.any (·.overlaps e) then none else some { p with merges := p.merges ++ [e] }

/-- Add a merged range unless it overlaps a planned one. -/
def addMerge (p : StylePlan) (e : Extent) : StylePlan := (p.addMerge? e).getD p

/-- The combined style of the cells of a range. -/
def mergedStyle (p : StylePlan) (e : Extent) : CellStyle :=
  CellStyle.combineAll ((p.styles.entries.filter fun s => e.contains s.1).map Prod.snd)

/-- Bold. -/
def bold (_ : Cell) (s : CellStyle) : CellStyle := { s with bold := true }

/-- The style of a cell whose tag was cleared, and the place of the picture. -/
def markStripped (rules : StyleRules) (extent : Extent) (p : StylePlan) (e : Cell × String) :
    StylePlan :=
  let plain := if extent.contains e.1 then p.modify e.1 (bold e.1) else p
  match Tag.read e.2 with
  | .ok (some (.decorative name)) =>
    if name = Tag.totalBar then
      p.modify e.1 fun s => { s with bold := true, fill := some rules.totalBarFill }
    else plain
  | .ok (some (.anchor name)) =>
    if name = rules.iconPlaceholder then
      match rules.icon with
      | some icon => { p with image := some (e.1, icon) }
      | none => p
    else plain
  | _ => plain

/-- Merge the cells over a subtotal, if its column is one that is merged. -/
def mergeGroup (rules : StyleRules) (p : StylePlan) (s : Subtotal) : StylePlan :=
  if rules.mergeColumns.contains s.column then
    match s.summed with
    | .ok (first, last) => p.addMerge ⟨first, last⟩
    | .error _ => p
  else p

/-- The block from a cell down to the row of another cell. -/
def blockDown (c bottom : Cell) : Extent := ⟨c, if c.row ≤ bottom.row then c.inRowOf bottom else c⟩

/-- Make a vertical block with a border from a cell down to a row, unless it overlaps a merged
range. -/
def orderBlock (p : StylePlan) (c bottom : Cell) : StylePlan :=
  let block := blockDown c bottom
  match if block.last = c then some p else p.addMerge? block with
  | none => p
  | some p => (p.outline block).modify c fun s => { s with vertical := true }

/-- The order block of the placeholder that stands for the order, if it was filled. -/
def placeOrder (rules : StyleRules) (o : Outcome) (p : StylePlan) : StylePlan :=
  match o.placeholders.find? fun e => e.2 == rules.orderPlaceholder with
  | some (cell, _) => p.orderBlock cell o.extent.last
  | none => p

/-- The plan before any style. -/
def start (rules : StyleRules) (formats : SheetFormats) (extent : Extent) : StylePlan :=
  { base := formats.carried extent
    widths := formats.widths
    iconSize := rules.iconSize
    dateFormat := rules.dateFormat }

/-- The plan of an assembled report. -/
def build (g : Grid) (o : Outcome) (rules : StyleRules) (formats : SheetFormats) : StylePlan :=
  let dates := o.extent.cells.filter fun c => (g.get c).isDate
  let p := start rules formats o.extent
  let p := p.modifyAll (o.resolution.writes.map Prod.fst) bold
  let p := o.stripped.foldl (markStripped rules o.extent) p
  let p := p.modifyAll dates fun _ s => { s with date := true }
  let p := p.outline o.extent
  let p := o.resolution.subtotals.foldl (mergeGroup rules) p
  placeOrder rules o p

end StylePlan

end SheetReport
