import SheetReport.OrderedMap
import SheetReport.Sheet.Cell

/-!
# Formats of cells

The part of a template's formatting that a report takes over: number format, font, fill and
alignment of cells, and column widths.
-/

namespace SheetReport

/-- How numbers are shown. -/
inductive NumberFormat where
  /-- A predefined format, by its index. -/
  | builtin (index : Nat)
  | custom (code : String)
deriving DecidableEq, Repr

/-- Horizontal alignment. -/
inductive HorizontalAlign where
  | general
  | left
  | center
  | right
  | fill
  | justify
  | centerAcross
  | distributed
deriving DecidableEq, Repr

/-- Vertical alignment. -/
inductive VerticalAlign where
  | top
  | center
  | bottom
  | justify
  | distributed
deriving DecidableEq, Repr

/-- A font; what is missing is as in the default font. -/
structure Font where
  name : Option String := none
  size : Option Float := none
  /-- Red, green and blue in one number. -/
  color : Option Nat := none
  bold : Bool := false
  italic : Bool := false
  underline : Bool := false
deriving DecidableEq, Inhabited

/-- The format of a cell. -/
structure CellFormat where
  number : Option NumberFormat := none
  /-- None stands for the default font. -/
  font : Option Font := none
  /-- The colour of a solid fill. -/
  fill : Option Nat := none
  horizontal : Option HorizontalAlign := none
  vertical : Option VerticalAlign := none
  wrap : Bool := false
deriving DecidableEq, Inhabited

namespace CellFormat

/-- Whether nothing is set. -/
def isDefault (f : CellFormat) : Bool := f = {}

/-- The format on another cell of its column, which keeps its own fill. -/
def copiedOnto (f : CellFormat) (own : Option CellFormat) : CellFormat :=
  { f with fill := own.bind (·.fill) }

end CellFormat

/-- The formats of a sheet. -/
structure SheetFormats where
  cells : OrderedMap Cell CellFormat := .empty
  /-- Custom column widths as they are stored, padding included. -/
  widths : OrderedMap Nat Float := .empty
deriving Inhabited

/-- The format of a cell, if it has one. -/
def SheetFormats.get? (f : SheetFormats) (c : Cell) : Option CellFormat := f.cells.get? c

end SheetReport
