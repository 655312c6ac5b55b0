import Mathlib.Data.List.Forall2
import SheetReport.Proofs.Sheet.Writing

/-!
# Cells of one column

The cells of a column at given distances below the first cell of a rectangle. A list of cells
that goes down the sheet is determined by its members, so such lists are compared by asking
which cells they hold.

Main statements: `Cell.eq_of_pairwise_index`, and `cells_eq_columnCells` for the range between
two cells of a column.
-/

namespace SheetReport

/-- Cells that go down the sheet are all different. -/
theorem Cell.nodup_of_pairwise_index {l : List Cell}
    (h : l.Pairwise fun a b => a.index < b.index) : l.Nodup := by
  refine h.imp fun {a b} hlt heq => ?_
  subst heq
  exact Nat.lt_irrefl _ hlt

/-- Lists of cells that go down the sheet are equal if they hold the same cells. -/
theorem Cell.eq_of_pairwise_index {l l' : List Cell}
    (hl : l.Pairwise fun a b => a.index < b.index)
    (hl' : l'.Pairwise fun a b => a.index < b.index) (hmem : ∀ c, c ∈ l ↔ c ∈ l') : l = l' := by
  have hperm : l.Perm l' := (List.perm_ext_iff_of_nodup (Cell.nodup_of_pairwise_index hl)
    (Cell.nodup_of_pairwise_index hl')).mpr hmem
  exact hperm.eq_of_pairwise (fun a b _ _ hab hba => absurd hab (Nat.lt_asymm hba)) hl hl'

namespace Extent

variable {e : Extent} {col : Nat}

/-- The cells of a column at distances below the first cell of a rectangle. -/
def columnCells (e : Extent) (col : Nat) (rows : List Nat) : List Cell :=
  rows.filterMap fun row => Cell.ofNat? (e.first.row + row) (e.first.col + col)

/-- The cell at a distance is the only one there. -/
theorem ofNat?_eq_some_iff_isAt {anchor c : Cell} {row col : Nat} :
    Cell.ofNat? (anchor.row + row) (anchor.col + col) = some c ↔ c.IsAt anchor row col := by
  have hrow := c.row_lt
  have hcol := c.col_lt
  unfold Cell.ofNat?
  rw [Option.dite_none_right_eq_some]
  constructor
  · intro hboth
    obtain ⟨hlt, heq⟩ := hboth
    obtain rfl := Option.some.inj heq
    exact ⟨rfl, rfl⟩
  · intro hat
    unfold Cell.IsAt at hat
    exact ⟨by omega, congrArg some (Cell.ext hat.1.symm hat.2.symm)⟩

/-- The listed cells are those at the given distances. -/
theorem mem_columnCells {rows : List Nat} {c : Cell} :
    c ∈ e.columnCells col rows ↔ ∃ row ∈ rows, c.IsAt e.first row col := by
  simp only [columnCells, List.mem_filterMap, ofNat?_eq_some_iff_isAt]

/-- Cells at growing distances go down the sheet. -/
theorem pairwise_columnCells {rows : List Nat} (h : rows.Pairwise (· < ·)) :
    (e.columnCells col rows).Pairwise fun a b => a.index < b.index := by
  refine h.filterMap _ fun row row' hlt c hc c' hc' => ?_
  have hat := ofNat?_eq_some_iff_isAt.mp hc
  have hat' := ofNat?_eq_some_iff_isAt.mp hc'
  unfold Cell.IsAt at hat hat'
  unfold Cell.index
  omega

/-- The first distance gives the first cell. -/
theorem columnCells_cons {c : Cell} {row : Nat} (h : c.IsAt e.first row col) (rest : List Nat) :
    e.columnCells col (row :: rest) = c :: e.columnCells col rest := by
  have hcell : Cell.ofNat? (e.first.row + row) (e.first.col + col) = some c :=
    ofNat?_eq_some_iff_isAt.mpr h
  simp only [columnCells, List.filterMap_cons, hcell]

/-- What holds of a cell at each of the distances holds of the listed cells in order. -/
theorem forall₂_columnCells {β : Type} {R : Cell → β → Prop} {l : List β} {row : β → Nat}
    (h : ∀ b ∈ l, ∃ c : Cell, c.IsAt e.first (row b) col ∧ R c b) :
    List.Forall₂ R (e.columnCells col (l.map row)) l := by
  induction l with
  | nil => exact .nil
  | cons b rest ih =>
    obtain ⟨c, hc, hR⟩ := h b List.mem_cons_self
    rw [List.map_cons, columnCells_cons hc]
    exact .cons hR (ih fun b' hb' => h b' (List.mem_cons_of_mem _ hb'))

/-- Lists of distances follow one another. -/
theorem columnCells_append (rows rows' : List Nat) :
    e.columnCells col (rows ++ rows') = e.columnCells col rows ++ e.columnCells col rows' :=
  List.filterMap_append

/-- The range between two cells of a column is made of the cells at the distances between. -/
theorem cells_eq_columnCells {first last : Cell} {row size : Nat} (hsize : 0 < size)
    (hfirst : first.IsAt e.first row col) (hlast : last.IsAt e.first (row + size - 1) col) :
    (Extent.mk first last).cells = e.columnCells col (List.range' row size) := by
  unfold Cell.IsAt at hfirst hlast
  have hrows : (Extent.mk first last).rowRange =
      (List.range' row size).map (e.first.row + ·) := by
    rw [List.map_add_range', rowRange, rows, hfirst.1]
    congr 1
    simp only
    omega
  have hcolumns : (Extent.mk first last).columnRange = [e.first.col + col] := by
    have hone : (Extent.mk first last).columns = 1 := by
      simp only [columns]
      omega
    rw [columnRange, hone, hfirst.2]
    rfl
  have hflat (rows : List Nat) :
      (rows.flatMap fun r => [e.first.col + col].filterMap fun c => Cell.ofNat? r c) =
        rows.filterMap fun r => Cell.ofNat? r (e.first.col + col) := by
    induction rows with
    | nil => rfl
    | cons r rest ih =>
      rw [List.flatMap_cons, ih, List.filterMap_cons, List.filterMap_cons]
      cases Cell.ofNat? r (e.first.col + col) <;> rfl
  rw [cells, hrows, hcolumns, hflat, List.filterMap_map]
  rfl

/-- The range between two cells of a column holds the cells at the distances between. -/
theorem mem_cells_iff_of_isAt {first last c : Cell} {row size : Nat} (hsize : 0 < size)
    (hfirst : first.IsAt e.first row col) (hlast : last.IsAt e.first (row + size - 1) col) :
    c ∈ (Extent.mk first last).cells ↔ ∃ k < size, c.IsAt e.first (row + k) col := by
  rw [cells_eq_columnCells hsize hfirst hlast, mem_columnCells]
  constructor
  · intro hmem
    obtain ⟨row', hrow, hat⟩ := hmem
    obtain ⟨hle, hlt⟩ := List.mem_range'_1.mp hrow
    exact ⟨row' - row, by omega, by rwa [Nat.add_sub_cancel' hle]⟩
  · intro hmem
    obtain ⟨k, hk, hat⟩ := hmem
    exact ⟨row + k, List.mem_range'_1.mpr ⟨Nat.le_add_right _ _, by omega⟩, hat⟩

end Extent

end SheetReport
