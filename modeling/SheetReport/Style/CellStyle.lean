/-!
# Styles of cells

What a report adds to the format of a cell. Styles combine by union, which makes the style of
a merged range from those of its cells.
-/

namespace SheetReport

/-- The edges of a cell that have a border. -/
structure Edges where
  top : Bool := false
  bottom : Bool := false
  left : Bool := false
  right : Bool := false
deriving DecidableEq, Repr, Inhabited

/-- What is added to a cell's format. -/
structure CellStyle where
  bold : Bool := false
  fill : Option Nat := none
  border : Edges := {}
  /-- Shown in the date format of the report. -/
  date : Bool := false
  /-- Rotated by a quarter turn and centred. -/
  vertical : Bool := false
deriving DecidableEq, Repr, Inhabited

/-- The edges of either cell. -/
def Edges.combine (a b : Edges) : Edges :=
  ⟨a.top || b.top, a.bottom || b.bottom, a.left || b.left, a.right || b.right⟩

namespace CellStyle

/-- Everything that either style adds; of two fills the first one is kept. -/
def combine (a b : CellStyle) : CellStyle :=
  { bold := a.bold || b.bold
    fill := a.fill.or b.fill
    border := a.border.combine b.border
    date := a.date || b.date
    vertical := a.vertical || b.vertical }

/-- Several styles combined, first one first. -/
def combineAll (styles : List CellStyle) : CellStyle := styles.foldl combine {}

end CellStyle

end SheetReport
