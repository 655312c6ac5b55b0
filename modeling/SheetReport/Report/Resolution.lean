import SheetReport.Scan
import SheetReport.Sheet.Extent

/-!
# Resolving aggregates

Every subtotal and total tag of a grid is replaced as the kind of its column asks:

* a ratio divides the cell to the left by the one left of that;
* a count is summed: a subtotal over the cells above it, a total over the subtotals above it
  and every occupied cell that none of them reaches;
* a label is a fixed text;
* other columns keep their tag.

The reach of a subtotal is its own cell and as many cells above it as its size says. Two
subtotals of one grid column must not reach the same cell.
-/

namespace SheetReport

/-- How the aggregates of a column are filled. -/
inductive ColumnKind where
  | ratio
  | count
  | label
  | other
deriving DecidableEq, Repr

/-- The columns of each kind and the texts of labels. -/
structure ColumnKinds where
  ratio : List String := ["Ad server CTR"]
  count : List String := ["Ad server impressions", "Ad server clicks"]
  label : List String := ["Delivery Indicator"]
  subtotalLabel : String := "Total"
  totalLabel : String := "TOTAL"
deriving DecidableEq, Repr

/-- The kind of a column; a column in several lists is of the first kind. -/
def ColumnKinds.classify (kinds : ColumnKinds) (column : String) : ColumnKind :=
  if kinds.ratio.contains column then .ratio
  else if kinds.count.contains column then .count
  else if kinds.label.contains column then .label
  else .other

/-- A subtotal tag in a grid. -/
structure Subtotal where
  cell : Cell
  size : Nat
  column : String
  kind : ColumnKind
deriving DecidableEq, Repr

/-- A total tag in a grid. -/
structure Total where
  cell : Cell
  column : String
  kind : ColumnKind
deriving DecidableEq, Repr

namespace Subtotal

/-- The highest cell that a subtotal reaches. -/
def top (s : Subtotal) : Cell :=
  ⟨s.cell.row - s.size, s.cell.col, by have := s.cell.row_lt; omega, s.cell.col_lt⟩

/-- Whether a subtotal reaches a cell. -/
def reaches (s : Subtotal) (c : Cell) : Bool :=
  c.col == s.cell.col && s.top.row ≤ c.row && c.row ≤ s.cell.row

/-- The first and the last cell that a subtotal sums. -/
def summed (s : Subtotal) : Except ReportError (Cell × Cell) := do
  let first ← s.cell.locate (-(s.size : Int)) 0
  let last ← s.cell.locate (-1) 0
  .ok (first, last)

/-- Order by column, for a stable sort. -/
def columnLe (a b : Subtotal) : Bool := a.cell.col ≤ b.cell.col

/-- The error for two neighbouring subtotals of one column, if they reach the same cell. -/
def clash? (a b : Subtotal) : Option ReportError :=
  if a.cell.col = b.cell.col ∧ b.top.row ≤ a.cell.row then
    some (.ambiguousCell (if a.top.row ≤ b.top.row then b.top else a.top) a.cell b.cell)
  else none

/-- The first clash of neighbours in a list. -/
def firstClash? : List Subtotal → Option ReportError
  | a :: b :: rest => (clash? a b).or (firstClash? (b :: rest))
  | _ => none

/-- The first clash among subtotals listed row by row: the leftmost column that has one
decides, and there the highest pair. -/
def ambiguity? (subtotals : List Subtotal) : Option ReportError :=
  firstClash? (subtotals.mergeSort columnLe)

end Subtotal

/-- The subtotals and totals of a grid, and the values they are replaced by, in the order of
writing. -/
structure Resolution where
  subtotals : List Subtotal
  totals : List Total
  writes : List (Cell × Value)
deriving DecidableEq

namespace Resolution

/-- The formula of a ratio at a cell. -/
def ratioFormula (cell : Cell) : Except ReportError Value := do
  let numerator ← cell.locate 0 (-1)
  let denominator ← cell.locate 0 (-2)
  .ok (.formula ("=" ++ numerator.name ++ "/" ++ denominator.name))

/-- The formula of a subtotal's sum. -/
def sumFormula (s : Subtotal) : Except ReportError Value :=
  s.summed.map fun (first, last) => .formula ("=SUM(" ++ first.name ++ ":" ++ last.name ++ ")")

/-- The formula that adds cells. -/
def addFormula (cells : List Cell) : Value :=
  if cells.isEmpty then .formula "=0"
  else .formula ("=" ++ "+".intercalate (cells.map Cell.name))

/-- The subtotals that a total adds: those of its grid column between the first row of the
report and the total. -/
def subtotalsAbove (extent : Extent) (subtotals : List Subtotal) (total : Cell) : List Subtotal :=
  subtotals.filter fun s =>
    s.cell.col == total.col && extent.first.row ≤ s.cell.row && s.cell.row < total.row

/-- The cells that a total adds besides subtotals: occupied cells above it that none of the
subtotals reaches. -/
def uncovered (g : Grid) (extent : Extent) (above : List Subtotal) (total : Cell) : List Cell :=
  (g.entries.map Prod.fst).filter fun c =>
    c.col == total.col && extent.first.row ≤ c.row && c.row < total.row &&
      !above.any (·.reaches c)

/-- The cells that a total adds. -/
def totalTerms (g : Grid) (extent : Extent) (subtotals : List Subtotal) (total : Cell) :
    List Cell :=
  let above := subtotalsAbove extent subtotals total
  above.map (·.cell) ++ uncovered g extent above total

/-- The subtotals among tags. -/
def subtotalsOf (kinds : ColumnKinds) (tags : List (Cell × Tag)) : List Subtotal :=
  tags.filterMap fun
    | (cell, .subtotal size column) => some ⟨cell, size, column, kinds.classify column⟩
    | _ => none

/-- The totals among tags. -/
def totalsOf (kinds : ColumnKinds) (tags : List (Cell × Tag)) : List Total :=
  tags.filterMap fun
    | (cell, .total column) => some ⟨cell, column, kinds.classify column⟩
    | _ => none

/-- What a total that depends on its own row or on nothing is replaced by. -/
def plainTotal? (kinds : ColumnKinds) (t : Total) : Except ReportError (Option (Cell × Value)) :=
  match t.kind with
  | .ratio => (ratioFormula t.cell).map fun v => some (t.cell, v)
  | .label => .ok (some (t.cell, .text kinds.totalLabel))
  | .count | .other => .ok none

/-- What a counted total is replaced by. -/
def countTotal? (g : Grid) (extent : Extent) (subtotals : List Subtotal) (t : Total) :
    Option (Cell × Value) :=
  if t.kind = .count then
    some (t.cell, addFormula (totalTerms g extent subtotals t.cell))
  else none

/-- What a subtotal is replaced by. -/
def subtotalValue? (kinds : ColumnKinds) (s : Subtotal) :
    Except ReportError (Option (Cell × Value)) :=
  match s.kind with
  | .ratio => (ratioFormula s.cell).map fun v => some (s.cell, v)
  | .count => (sumFormula s).map fun v => some (s.cell, v)
  | .label => .ok (some (s.cell, .text kinds.subtotalLabel))
  | .other => .ok none

/-- The resolution of a grid: nothing is replaced unless every tag can be read, no cell is
ambiguous and every formula can be built. -/
def ofGrid (g : Grid) (extent : Extent) (kinds : ColumnKinds) :
    Except ReportError Resolution := do
  let tags ← g.tags
  let subtotals := subtotalsOf kinds tags
  let totals := totalsOf kinds tags
  match Subtotal.ambiguity? subtotals with
  | some error => .error error
  | none =>
    let plain ← totals.mapM (plainTotal? kinds)
    let counts := totals.filterMap (countTotal? g extent subtotals)
    let sums ← subtotals.mapM (subtotalValue? kinds)
    .ok ⟨subtotals, totals, plain.filterMap id ++ counts ++ sums.filterMap id⟩

/-- A grid with its aggregates resolved. -/
def resolve (g : Grid) (extent : Extent) (kinds : ColumnKinds) :
    Except ReportError (Grid × Resolution) :=
  (ofGrid g extent kinds).map fun r => (g.setAll r.writes, r)

/-- Resolve the aggregates of a grid in place: the values are collected from the grid as it stands,
and only then written to it one after another. -/
def resolveIn (extent : Extent) (kinds : ColumnKinds) :
    ExceptT ReportError (StateM Grid) Resolution := do
  let r ← ofGrid (← get) extent kinds
  r.writes.forM fun w => modify fun g => g.set w.1 w.2
  return r

end Resolution

end SheetReport
