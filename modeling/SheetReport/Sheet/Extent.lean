import SheetReport.Sheet.Cell

/-!
# Rectangles of cells

A rectangle is given by its first and its last cell, both inside it. It is empty when the last
cell lies above or left of the first.
-/

namespace SheetReport

/-- A rectangle of cells, both corners included. -/
structure Extent where
  first : Cell
  last : Cell
deriving DecidableEq, Repr, Inhabited

namespace Extent

/-- The number of rows. -/
def rows (e : Extent) : Nat := e.last.row + 1 - e.first.row

/-- The number of columns. -/
def columns (e : Extent) : Nat := e.last.col + 1 - e.first.col

/-- Whether a cell lies in the rectangle. -/
def contains (e : Extent) (c : Cell) : Bool :=
  e.first.row ≤ c.row && c.row ≤ e.last.row && e.first.col ≤ c.col && c.col ≤ e.last.col

/-- The rows of the rectangle, top down. -/
def rowRange (e : Extent) : List Nat := List.range' e.first.row e.rows

/-- The columns of the rectangle, left to right. -/
def columnRange (e : Extent) : List Nat := List.range' e.first.col e.columns

/-- The cells of the rectangle, row by row. -/
def cells (e : Extent) : List Cell :=
  e.rowRange.flatMap fun row => e.columnRange.filterMap fun col => Cell.ofNat? row col

/-- Whether two rectangles reach into the same rows and the same columns. -/
def overlaps (a b : Extent) : Bool :=
  a.first.row ≤ b.last.row && b.first.row ≤ a.last.row &&
    a.first.col ≤ b.last.col && b.first.col ≤ a.last.col

/-- The names of the two corners. -/
def text (e : Extent) : String := e.first.name ++ ":" ++ e.last.name

/-- The cells of a rectangle are those it contains. -/
theorem mem_cells {e : Extent} {c : Cell} : c ∈ e.cells ↔ e.contains c = true := by
  have hr := c.row_lt
  have hc := c.col_lt
  simp only [cells, rowRange, columnRange, rows, columns, List.mem_flatMap, List.mem_range'_1,
    List.mem_filterMap, contains, Bool.and_eq_true, decide_eq_true_eq]
  constructor
  · rintro ⟨row, hrow, col, hcol, h⟩
    obtain ⟨hlt, heq⟩ := Option.dite_none_right_eq_some.1 h
    obtain rfl := Option.some.inj heq
    simp only
    omega
  · intro h
    refine ⟨c.row, by omega, c.col, by omega, ?_⟩
    simp [Cell.ofNat?, hr, hc]

/-- Rectangles with a common cell overlap. -/
theorem overlaps_of_contains {a b : Extent} {c : Cell} (ha : a.contains c = true)
    (hb : b.contains c = true) : a.overlaps b = true := by
  simp only [contains, overlaps, Bool.and_eq_true, decide_eq_true_eq] at ha hb ⊢
  omega

end Extent

end SheetReport
