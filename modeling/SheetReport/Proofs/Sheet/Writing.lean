import SheetReport.Error
import SheetReport.Sheet.Extent
import SheetReport.Sheet.Grid

/-!
# Places and writes

A place is found by adding offsets to a cell; it exists exactly when both sums stay on the
sheet. A run of writes changes the cells it names and no others, and where all writes to a cell
agree their order does not matter.
-/

namespace SheetReport

namespace Cell

/-- A located cell is the one whose coordinates are the sums. -/
theorem locate_eq_ok_iff {anchor c : Cell} {rows cols : Int} :
    anchor.locate rows cols = .ok c ↔
      (c.row : Int) = anchor.row + rows ∧ (c.col : Int) = anchor.col + cols := by
  have hrow := c.row_lt
  have hcol := c.col_lt
  unfold locate offset? ofInt? ofNat?
  constructor
  · intro h
    split at h
    · rename_i place hplace
      obtain rfl := Except.ok.inj h
      split at hplace
      · split at hplace
        · obtain rfl := Option.some.inj hplace
          simp only
          omega
        · contradiction
      · contradiction
    · contradiction
  · intro hboth
    obtain ⟨hr, hc⟩ := hboth
    have hnonneg : 0 ≤ (anchor.row : Int) + rows ∧ 0 ≤ (anchor.col : Int) + cols := by omega
    have hlt : ((anchor.row : Int) + rows).toNat < 4294967296 ∧
        ((anchor.col : Int) + cols).toNat < 65536 := by omega
    have hcell : c = ⟨((anchor.row : Int) + rows).toNat, ((anchor.col : Int) + cols).toNat,
        hlt.1, hlt.2⟩ := by
      ext <;> simp only <;> omega
    rw [if_pos hnonneg, dif_pos hlt, hcell]

/-- A place exists exactly when the sums of coordinates stay on the sheet. -/
theorem exists_locate_eq_ok_iff (anchor : Cell) (rows cols : Int) :
    (∃ c, anchor.locate rows cols = .ok c) ↔
      (0 ≤ anchor.row + rows ∧ anchor.row + rows < 4294967296) ∧
        0 ≤ anchor.col + cols ∧ anchor.col + cols < 65536 := by
  simp only [locate_eq_ok_iff]
  constructor
  · intro hex
    obtain ⟨c, hr, hc⟩ := hex
    have hrow := c.row_lt
    have hcol := c.col_lt
    omega
  · intro hboth
    obtain ⟨hr, hc⟩ := hboth
    exact ⟨⟨(anchor.row + rows).toNat, (anchor.col + cols).toNat, by omega, by omega⟩,
      by simp only; omega⟩

/-- A place that does not exist is reported with the anchor and the offsets. -/
theorem eq_outOfBounds_of_locate {anchor : Cell} {rows cols : Int} {error : ReportError}
    (h : anchor.locate rows cols = .error error) : error = .outOfBounds anchor rows cols := by
  unfold locate at h
  split at h
  · contradiction
  · exact (Except.error.inj h).symm

/-- A cell below and right of an anchor lies on the sheet. -/
def IsAt (c anchor : Cell) (row col : Nat) : Prop :=
  c.row = anchor.row + row ∧ c.col = anchor.col + col

/-- At one distance from an anchor there is one cell. -/
theorem IsAt.unique {c d anchor : Cell} {row col : Nat} (hc : c.IsAt anchor row col)
    (hd : d.IsAt anchor row col) : c = d :=
  Cell.ext (hc.1.trans hd.1.symm) (hc.2.trans hd.2.symm)

/-- A cell stands at one distance from an anchor. -/
theorem IsAt.distance {c anchor : Cell} {row row' col col' : Nat} (h : c.IsAt anchor row col)
    (h' : c.IsAt anchor row' col') : row = row' ∧ col = col' := by
  unfold IsAt at h h'
  omega

/-- Locating downwards and to the right finds the cell at that distance. -/
theorem locate_eq_ok_iff_isAt {anchor c : Cell} {row col : Nat} :
    anchor.locate row col = .ok c ↔ c.IsAt anchor row col := by
  rw [locate_eq_ok_iff, IsAt]
  omega

end Cell

namespace Grid

/-- Runs of writes follow one another. -/
theorem setAll_append (g : Grid) (first second : List (Cell × Value)) :
    g.setAll (first ++ second) = (g.setAll first).setAll second := List.foldl_append

/-- Writes to other cells leave a cell as it is. -/
theorem get_setAll_of_ne {g : Grid} {writes : List (Cell × Value)} {c : Cell}
    (h : ∀ w ∈ writes, w.1 ≠ c) : (g.setAll writes).get c = g.get c := by
  induction writes generalizing g with
  | nil => rfl
  | cons w rest ih =>
    have hrest : ((g.set w.1 w.2).setAll rest).get c = (g.set w.1 w.2).get c :=
      ih fun w' hw' => h w' (List.mem_cons_of_mem _ hw')
    change ((g.set w.1 w.2).setAll rest).get c = g.get c
    rw [hrest, get_set, if_neg (Ne.symm (h w List.mem_cons_self))]

/-- A cell that is written, and always with one value, holds that value. -/
theorem get_setAll_of_agree {g : Grid} {writes : List (Cell × Value)} {c : Cell} {v : Value}
    (hmem : (c, v) ∈ writes) (h : ∀ w ∈ writes, w.1 = c → w.2 = v) :
    (g.setAll writes).get c = v := by
  induction writes generalizing g with
  | nil => simp at hmem
  | cons w rest ih =>
    have hagree : ∀ w' ∈ rest, w'.1 = c → w'.2 = v := fun w' hw' =>
      h w' (List.mem_cons_of_mem _ hw')
    change ((g.set w.1 w.2).setAll rest).get c = v
    by_cases hlater : (c, v) ∈ rest
    · exact ih hlater hagree
    · -- no later write reaches the cell, so this one stays
      have hw : w = (c, v) := by
        rcases List.mem_cons.mp hmem with heq | hrest
        · exact heq.symm
        · exact absurd hrest hlater
      have hne : ∀ w' ∈ rest, w'.1 ≠ c := by
        intro w' hw' heq
        have hpair : w' = (c, v) := Prod.ext heq (hagree w' hw' heq)
        exact hlater (hpair ▸ hw')
      rw [get_setAll_of_ne hne, hw, get_set, if_pos rfl]

/-- A cell keeps its value or takes one of those that are written. -/
theorem get_setAll_cases (g : Grid) (writes : List (Cell × Value)) (c : Cell) :
    (g.setAll writes).get c = g.get c ∨ ∃ w ∈ writes, (g.setAll writes).get c = w.2 := by
  induction writes generalizing g with
  | nil => exact .inl rfl
  | cons w rest ih =>
    change ((g.set w.1 w.2).setAll rest).get c = _ ∨ ∃ w' ∈ w :: rest,
      ((g.set w.1 w.2).setAll rest).get c = w'.2
    rcases ih (g.set w.1 w.2) with hkeep | ⟨w', hw', hget⟩
    · rw [hkeep, get_set]
      split
      · exact .inr ⟨w, List.mem_cons_self, rfl⟩
      · exact .inl rfl
    · exact .inr ⟨w', List.mem_cons_of_mem _ hw', hget⟩

/-- The cells of the listing come row by row. -/
theorem pairwise_entries (g : Grid) :
    g.entries.Pairwise fun a b => a.1.index < b.1.index :=
  g.cells.sorted.imp fun {a b} h => by
    simpa using (Nat.compare_eq_lt.mp h : a.1.index < b.1.index)

end Grid

end SheetReport
