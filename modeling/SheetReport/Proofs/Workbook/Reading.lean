import Mathlib.Data.List.Basic
import SheetReport.Proofs.Sheet.Writing
import SheetReport.Workbook.Loading

/-!
# What a template shows of a stored sheet

Values and formulas come as two ranges, each counted from its own first row and column. Counting
from the start of a range and back gives the same cell, wherever a range starts, so the two
ranges meet again in the cells that they came from: a template shows in each cell the formula that
is stored there, or else the value, and nothing where nothing is stored.
-/

namespace SheetReport

namespace CellRange

variable {α : Type}

/-- What is used in the range of some cells are these cells. -/
theorem cells_ofCells? (cells : List (Cell × α)) :
    ((ofCells? cells).map CellRange.cells).getD [] = cells := by
  unfold ofCells?
  split
  · rename_i row col hrow hcol
    have hback : ∀ e ∈ cells, (⟨row, col, []⟩ : CellRange α).absolute (e.1.row - row)
        (e.1.col - col) = e.1 := by
      intro e he
      have hr : row ≤ e.1.row :=
        (List.min?_eq_some_iff.mp hrow).2 _ (List.mem_map_of_mem he)
      have hc : col ≤ e.1.col :=
        (List.min?_eq_some_iff.mp hcol).2 _ (List.mem_map_of_mem he)
      have hrowLt := e.1.row_lt
      have hcolLt := e.1.col_lt
      ext
      · simp only [absolute]
        omega
      · simp only [absolute]
        omega
    rw [Option.map_some, Option.getD_some, CellRange.cells, List.map_map]
    refine (List.map_congr_left fun e he => ?_).trans (List.map_id _)
    exact Prod.ext (hback e he) rfl
  · rename_i hnone
    cases cells with
    | nil => rfl
    | cons e rest => exact absurd rfl (hnone _ _ rfl)

end CellRange

namespace Grid

/-- The writes of a range of values and of a range of formulas follow one another. -/
theorem ofRanges_ofCells? (values : List (Cell × Value)) (formulas : List (Cell × String)) :
    ofRanges (CellRange.ofCells? values) (CellRange.ofCells? formulas) =
      (empty.setAll values).setAll
        ((formulas.filter fun f => f.2 != "").map fun f => (f.1, .formula ("=" ++ f.2))) := by
  conv_rhs => rw [← CellRange.cells_ofCells? values, ← CellRange.cells_ofCells? formulas]
  unfold ofRanges
  cases CellRange.ofCells? values <;> cases CellRange.ofCells? formulas <;> rfl

/-- Writing what the cells of a map give changes each cell to that. -/
theorem get_setAll_filterMap {α : Type} (g : Grid) (cells : OrderedMap Cell α)
    (f : α → Option Value) (c : Cell) :
    (g.setAll (cells.entries.filterMap fun e => (f e.2).map fun v => (e.1, v))).get c =
      ((cells.get? c).bind f).getD (g.get c) := by
  have hwrite {w : Cell × Value}
      (h : w ∈ cells.entries.filterMap fun e => (f e.2).map fun v => (e.1, v)) :
      (cells.get? w.1).bind f = some w.2 := by
    obtain ⟨e, he, hw⟩ := List.mem_filterMap.mp h
    obtain ⟨v, hv, rfl⟩ := Option.map_eq_some_iff.mp hw
    rw [OrderedMap.get?_eq_some_iff.mpr he, Option.bind_some, hv]
  cases hfound : (cells.get? c).bind f with
  | none =>
    refine get_setAll_of_ne fun w hw heq => ?_
    rw [← heq, hwrite hw] at hfound
    contradiction
  | some v =>
    obtain ⟨a, ha, hv⟩ := Option.bind_eq_some_iff.mp hfound
    refine get_setAll_of_agree (List.mem_filterMap.mpr
      ⟨(c, a), OrderedMap.get?_eq_some_iff.mp ha, by rw [hv]; rfl⟩) fun w hw heq => ?_
    have hsame := hwrite hw
    rw [heq, hfound] at hsame
    exact (Option.some.inj hsame).symm

end Grid

namespace StoredCell

/-- The formula that a template shows in a cell. -/
def shownFormula? (c : StoredCell) : Option Value :=
  c.formula?.bind fun f => if f = "" then none else some (.formula ("=" ++ f))

/-- What a template shows of a stored cell: the formula, or else the value. -/
def shown (c : StoredCell) : Value := c.shownFormula?.getD (c.value?.getD .empty)

end StoredCell

/-- In each cell a template shows what is stored there. -/
theorem StoredSheet.get_grid (s : StoredSheet) (c : Cell) :
    s.grid.get c = ((s.cells.get? c).map StoredCell.shown).getD .empty := by
  have hformulas : ((s.formulas.filter fun f => f.2 != "").map fun f =>
      (f.1, Value.formula ("=" ++ f.2))) =
        s.cells.entries.filterMap fun e => e.2.shownFormula?.map fun v => (e.1, v) := by
    rw [formulas, List.filter_filterMap, List.map_filterMap]
    refine List.filterMap_congr fun e _ => ?_
    rw [StoredCell.shownFormula?]
    cases e.2.formula? with
    | none => rfl
    | some f => by_cases hf : f = "" <;> simp [hf]
  rw [grid, Grid.ofRanges_ofCells?, hformulas, Grid.get_setAll_filterMap, filled,
    Grid.get_setAll_filterMap]
  cases s.cells.get? c with
  | none => rfl
  | some stored => rfl

end SheetReport
