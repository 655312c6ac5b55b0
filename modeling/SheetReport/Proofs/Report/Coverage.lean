import SheetReport.Proofs.Report.Reach
import SheetReport.Proofs.Sheet.ColumnCells

/-!
# What a total adds

In each column the subtotals above the total row are those of the larger groups, and the
occupied cells that none of them reaches are the records without a subtotal: blank rows are
empty, and all other rows of the report lie in the reach of a subtotal. A subtotal sums the
cells of its own group.

Main statements: `Marked.totalTerms_eq` and `Subtotal.summed_eq_ok`.
-/

namespace SheetReport

open Resolution

namespace Group

/-- The groups in the order in which totals name them: those with a subtotal come first. -/
def largerFirst (groups : List Group) : List (Nat × Group) :=
  (placed groups).filter (·.2.isSubtotalled) ++ (placed groups).filter (!·.2.isSubtotalled)

/-- No group is lost when the larger ones come first. -/
theorem largerFirst_perm (groups : List Group) : (largerFirst groups).Perm (placed groups) :=
  List.filter_append_perm _ _

/-- What holds of a cell below each larger group, and of one in the row of each other group, holds
of the cells that totals name, in order. -/
theorem forall₂_largerFirst {groups : List Group} {e : Extent} {col : Nat}
    {R : Cell → Nat × Group → Prop}
    (hlarge : ∀ b ∈ placed groups, 1 < b.2.size →
      ∃ c : Cell, c.IsAt e.first (b.1 + b.2.size) col ∧ R c b)
    (hsmall : ∀ b ∈ placed groups, ¬ 1 < b.2.size → ∃ c : Cell, c.IsAt e.first b.1 col ∧ R c b) :
    List.Forall₂ R (e.columnCells col (subtotalRows groups ++ singleRows groups))
      (largerFirst groups) := by
  rw [Extent.columnCells_append, largerFirst]
  refine List.rel_append (Extent.forall₂_columnCells fun b hb => ?_)
    (Extent.forall₂_columnCells fun b hb => ?_)
  · obtain ⟨hb, hsize⟩ := List.mem_filter.mp hb
    exact hlarge b hb (of_decide_eq_true hsize)
  · obtain ⟨hb, hsize⟩ := List.mem_filter.mp hb
    refine hsmall b hb fun hlt => ?_
    simp [isSubtotalled, hlt] at hsize

/-- A group that is neither empty nor larger has one member, in the row of the group. -/
theorem exists_members_eq_singleton {groups : List Group} {b : Nat × Group}
    (hb : b ∈ placed groups) (hsmall : ¬ 1 < b.2.size) (hmembers : b.2.members ≠ []) :
    ∃ m, b.2.members = [m] ∧
      (PlannedRow.plan (groups.map records))[b.1]? = some (.data m.record) := by
  have hpos : 0 < b.2.size := List.length_pos_iff.mpr hmembers
  obtain ⟨m, hm⟩ : ∃ m, b.2.members = [m] :=
    List.length_eq_one_iff.mp (Nat.le_antisymm (Nat.not_lt.mp hsmall) hpos)
  have hfirst : b.2.members[0]? = some m := by
    rw [hm]
    rfl
  exact ⟨m, hm, data_mem_plan_iff.mpr ⟨b, hb, 0, m, hfirst, rfl, rfl⟩⟩

end Group

namespace Subtotal

/-- A subtotal right below a run of rows sums their cells, from the first to the last. -/
theorem summed_eq_ok {s : Subtotal} {anchor : Cell} {start col : Nat} (hsize : 0 < s.size)
    (hat : s.cell.IsAt anchor (start + s.size) col) :
    ∃ first last : Cell, s.summed = .ok (first, last) ∧ first.IsAt anchor start col ∧
      last.IsAt anchor (start + s.size - 1) col := by
  have hrow := s.cell.row_lt
  have hcol := s.cell.col_lt
  unfold Cell.IsAt at hat
  let first : Cell := ⟨anchor.row + start, anchor.col + col, by omega, by omega⟩
  let last : Cell := ⟨anchor.row + (start + s.size - 1), anchor.col + col, by omega, by omega⟩
  have hfirst : s.cell.locate (-(s.size : Int)) 0 = .ok first := by
    rw [Cell.locate_eq_ok_iff]
    simp only [first]
    omega
  have hlast : s.cell.locate (-1) 0 = .ok last := by
    rw [Cell.locate_eq_ok_iff]
    simp only [last]
    omega
  refine ⟨first, last, ?_, ⟨rfl, rfl⟩, ⟨rfl, rfl⟩⟩
  rw [summed, hfirst, hlast]
  rfl

end Subtotal

namespace Layout.Marked

variable {template g g' : Grid} {anchors : Anchors} {columns : List String}
  {groups : List Group} {extent : Extent} {kinds : ColumnKinds} {r : Resolution}

/-- The subtotals of a resolution stand in the subtotal rows, one in each column. -/
theorem mem_subtotals_iff (h : Marked template anchors columns groups g extent)
    (hr : Resolved g extent kinds g' r) {s : Subtotal} :
    s ∈ r.subtotals ↔
      (∃ b ∈ Group.placed groups, 1 < b.2.size ∧ s.size = b.2.size ∧
        ∃ col, columns[col]? = some s.column ∧ s.cell.IsAt extent.first (b.1 + b.2.size) col) ∧
      s.kind = kinds.classify s.column := by
  rw [hr.mem_subtotals, h.subtotal_iff]

/-- Every larger group has a subtotal above the total of each column. -/
theorem exists_mem_subtotalsAbove (h : Marked template anchors columns groups g extent)
    (hr : Resolved g extent kinds g' r) {total c : Cell} {col : Nat} {name : String}
    (hname : columns[col]? = some name) (hrow : total.row + 1 = extent.last.row)
    (hcol : total.col = extent.first.col + col) {b : Nat × Group} (hb : b ∈ Group.placed groups)
    (hlarge : 1 < b.2.size) (hat : c.IsAt extent.first (b.1 + b.2.size) col) :
    ⟨c, b.2.size, name, kinds.classify name⟩ ∈ subtotalsAbove extent r.subtotals total := by
  have hlast := h.last_row
  have hbelow := PlannedRow.add_two_lt_length_plan
    (Group.subtotal_mem_plan_iff.mpr ⟨b, hb, hlarge, rfl, rfl⟩) (by simp) (by simp)
  rw [← h.first] at hlast
  have hmem := (h.mem_subtotals_iff hr (s := ⟨c, b.2.size, name, kinds.classify name⟩)).mpr
    ⟨⟨b, hb, hlarge, rfl, col, hname, hat⟩, rfl⟩
  unfold Cell.IsAt at hat
  simp only [subtotalsAbove, List.mem_filter, hmem, Bool.and_eq_true, beq_iff_eq,
    decide_eq_true_eq, true_and]
  omega

/-- Every subtotal above a total is that of a larger group in the total's column. -/
theorem exists_of_mem_subtotalsAbove (h : Marked template anchors columns groups g extent)
    (hr : Resolved g extent kinds g' r) {total : Cell} {col : Nat}
    (hcol : total.col = extent.first.col + col) {s : Subtotal}
    (hs : s ∈ subtotalsAbove extent r.subtotals total) :
    ∃ b ∈ Group.placed groups, 1 < b.2.size ∧ s.size = b.2.size ∧
      s.cell.IsAt extent.first (b.1 + b.2.size) col := by
  simp only [subtotalsAbove, List.mem_filter, Bool.and_eq_true, beq_iff_eq] at hs
  obtain ⟨hmem, ⟨hscol, -⟩, -⟩ := hs
  obtain ⟨⟨b, hb, hlarge, hsize, col', -, hat⟩, -⟩ := (h.mem_subtotals_iff hr).mp hmem
  obtain rfl : col' = col := by
    have := hat.2
    omega
  exact ⟨b, hb, hlarge, hsize, hat⟩

/-- The subtotals above a total are those of the larger groups. -/
theorem map_cell_subtotalsAbove (h : Marked template anchors columns groups g extent)
    (hr : Resolved g extent kinds g' r) {total : Cell} {col : Nat} {name : String}
    (hname : columns[col]? = some name) (hrow : total.row + 1 = extent.last.row)
    (hcol : total.col = extent.first.col + col) :
    (subtotalsAbove extent r.subtotals total).map (·.cell) =
      extent.columnCells col (Group.subtotalRows groups) := by
  have hrows : ((subtotalsAbove extent r.subtotals total).map (·.cell)).Pairwise
      fun a b => a.index < b.index := by
    rw [List.pairwise_map]
    exact hr.pairwise_subtotals.filter _
  refine Cell.eq_of_pairwise_index hrows
    (Extent.pairwise_columnCells (Group.pairwise_subtotalRows groups)) fun c => ?_
  simp only [List.mem_map, Extent.mem_columnCells, Group.mem_subtotalRows_iff]
  constructor
  · intro hex
    obtain ⟨s, hs, rfl⟩ := hex
    obtain ⟨b, hb, hlarge, -, hat⟩ := h.exists_of_mem_subtotalsAbove hr hcol hs
    exact ⟨_, ⟨b, hb, hlarge, rfl⟩, hat⟩
  · intro hex
    obtain ⟨row, ⟨b, hb, hlarge, rfl⟩, hat⟩ := hex
    exact ⟨_, h.exists_mem_subtotalsAbove hr hname hrow hcol hb hlarge hat, rfl⟩

/-- The subtotals above a total reach the members of the larger groups and their own rows. -/
theorem any_reaches_iff (h : Marked template anchors columns groups g extent)
    (hr : Resolved g extent kinds g' r) {total c : Cell} {index col : Nat} {name : String}
    (hname : columns[col]? = some name) (hrow : total.row + 1 = extent.last.row)
    (hcol : total.col = extent.first.col + col) (hat : c.IsAt extent.first index col) :
    (subtotalsAbove extent r.subtotals total).any (·.reaches c) = true ↔
      ∃ b ∈ Group.placed groups, 1 < b.2.size ∧ b.1 ≤ index ∧ index ≤ b.1 + b.2.size := by
  simp only [List.any_eq_true, Subtotal.reaches_iff]
  constructor
  · intro hex
    obtain ⟨s, hs, -, htop, hbottom⟩ := hex
    obtain ⟨b, hb, hlarge, hsize, hsat⟩ := h.exists_of_mem_subtotalsAbove hr hcol hs
    unfold Cell.IsAt at hat hsat
    exact ⟨b, hb, hlarge, by omega, by omega⟩
  · intro hex
    obtain ⟨b, hb, hlarge, hle, hge⟩ := hex
    obtain ⟨place, hplace⟩ := h.exists_subtotal_cell hb hlarge hname
    refine ⟨_, h.exists_mem_subtotalsAbove hr hname hrow hcol hb hlarge hplace, ?_⟩
    unfold Cell.IsAt at hat hplace
    simp only
    omega

/-- An occupied cell above the total row belongs to a group: it lies in the row of a member or
in the group's subtotal row. -/
theorem exists_placed_of_get_ne_empty (h : Marked template anchors columns groups g extent)
    {c : Cell} {index col : Nat} {name : String} (hname : columns[col]? = some name)
    (hat : c.IsAt extent.first index col)
    (hindex : index + 2 < (PlannedRow.plan (groups.map Group.records)).length)
    (hget : g.get c ≠ .empty) :
    ∃ b ∈ Group.placed groups,
      b.1 ≤ index ∧ (index < b.1 + b.2.size ∨ 1 < b.2.size ∧ index = b.1 + b.2.size) := by
  obtain ⟨row, hplan⟩ : ∃ row, (PlannedRow.plan (groups.map Group.records))[index]? = some row :=
    ⟨_, List.getElem?_eq_getElem (by omega)⟩
  have hvalue := h.planned hplan hname hat
  cases row with
  | data r =>
    obtain ⟨b, hb, k, m, hm, -, rfl⟩ := Group.data_mem_plan_iff.mp hplan
    obtain ⟨hlt, -⟩ := List.getElem?_eq_some_iff.mp hm
    exact ⟨b, hb, Nat.le_add_right _ _, .inl (Nat.add_lt_add_left hlt _)⟩
  | blank => exact absurd hvalue hget
  | subtotal size =>
    obtain ⟨b, hb, hlarge, -, rfl⟩ := Group.subtotal_mem_plan_iff.mp hplan
    exact ⟨b, hb, Nat.le_add_right _ _, .inr ⟨hlarge, rfl⟩⟩
  | total =>
    have := PlannedRow.total_mem_plan_iff.mp hplan
    omega
  | decorative =>
    have := PlannedRow.decorative_mem_plan_iff.mp hplan
    omega

/-- The cells of a record are occupied: a missing value is shown as a text. -/
theorem get_member_ne_empty (h : Marked template anchors columns groups g extent) {c : Cell}
    {k col : Nat} {name : String} {b : Nat × Group} {m : Member}
    (hb : b ∈ Group.placed groups) (hm : b.2.members[k]? = some m)
    (hname : columns[col]? = some name) (hat : c.IsAt extent.first (b.1 + k) col) :
    g.get c ≠ .empty := by
  rw [h.planned (Group.data_mem_plan_iff.mpr ⟨b, hb, k, m, hm, rfl, rfl⟩) hname hat]
  simp only [PlannedRow.cellValue]
  split
  · simp
  · rename_i hempty
    intro heq
    simp [heq, Value.isEmpty] at hempty

/-- An occupied cell above a total that no subtotal reaches is in the row of a record without a
subtotal. -/
theorem exists_single_of_not_reached (h : Marked template anchors columns groups g extent)
    (hr : Resolved g extent kinds g' r) {total c : Cell} {index col : Nat} {name : String}
    (hname : columns[col]? = some name) (hrow : total.row + 1 = extent.last.row)
    (hcol : total.col = extent.first.col + col) (hat : c.IsAt extent.first index col)
    (hindex : index + 2 < (PlannedRow.plan (groups.map Group.records)).length)
    (hget : g.get c ≠ .empty)
    (hfree : (subtotalsAbove extent r.subtotals total).any (·.reaches c) = false) :
    ∃ b ∈ Group.placed groups, b.2.size ≤ 1 ∧ index = b.1 := by
  obtain ⟨b, hb, hle, hin⟩ := h.exists_placed_of_get_ne_empty hname hat hindex hget
  have hsmall : ¬ 1 < b.2.size := by
    intro hlarge
    rw [(h.any_reaches_iff hr hname hrow hcol hat).mpr ⟨b, hb, hlarge, hle, by omega⟩] at hfree
    contradiction
  exact ⟨b, hb, Nat.not_lt.mp hsmall, by omega⟩

/-- No subtotal reaches a record without a subtotal, as its group stands apart from the others. -/
theorem not_reached_of_single (h : Marked template anchors columns groups g extent)
    (hr : Resolved g extent kinds g' r) (hgroups : ∀ b ∈ groups, b.members ≠ [])
    {total c : Cell} {col : Nat} {name : String} (hname : columns[col]? = some name)
    (hrow : total.row + 1 = extent.last.row) (hcol : total.col = extent.first.col + col)
    {b : Nat × Group} (hb : b ∈ Group.placed groups) (hsmall : b.2.size ≤ 1)
    (hat : c.IsAt extent.first b.1 col) :
    (subtotalsAbove extent r.subtotals total).any (·.reaches c) = false := by
  rw [Bool.eq_false_iff, ne_eq, h.any_reaches_iff hr hname hrow hcol hat]
  intro hex
  obtain ⟨b', hb', hlarge', hle, hge⟩ := hex
  have hpos : 0 < b.2.size :=
    List.length_pos_iff.mpr (hgroups b.2 (Group.mem_of_mem_placed hb))
  have hcases := Group.placed_cases hb hb'
  rw [if_pos hlarge'] at hcases
  rcases hcases with rfl | hcases | hcases <;> omega

/-- The occupied cells above a total that no subtotal reaches are the records without a
subtotal. -/
theorem uncovered_eq (h : Marked template anchors columns groups g extent)
    (hr : Resolved g extent kinds g' r) (hgroups : ∀ b ∈ groups, b.members ≠ [])
    {total : Cell} {col : Nat} {name : String} (hname : columns[col]? = some name)
    (hrow : total.row + 1 = extent.last.row) (hcol : total.col = extent.first.col + col) :
    uncovered g extent (subtotalsAbove extent r.subtotals total) total =
      extent.columnCells col (Group.singleRows groups) := by
  have hlast := h.last_row
  rw [← h.first] at hlast
  have hcells : (g.entries.map Prod.fst).Pairwise fun a b => a.index < b.index := by
    rw [List.pairwise_map]
    exact g.pairwise_entries
  have hoccupied (c : Cell) : c ∈ g.entries.map Prod.fst ↔ g.get c ≠ .empty := by
    simp [Grid.mem_entries]
  refine Cell.eq_of_pairwise_index (hcells.filter _)
    (Extent.pairwise_columnCells (Group.pairwise_singleRows hgroups)) fun c => ?_
  simp only [uncovered, List.mem_filter, hoccupied, Bool.and_eq_true, beq_iff_eq,
    decide_eq_true_eq, Bool.not_eq_true', Extent.mem_columnCells, Group.mem_singleRows_iff]
  constructor
  · intro hboth
    obtain ⟨hget, ⟨⟨hccol, hfirst⟩, habove⟩, hfree⟩ := hboth
    have hat : c.IsAt extent.first (c.row - extent.first.row) col := by
      unfold Cell.IsAt
      omega
    obtain ⟨b, hb, hsmall, hstart⟩ := h.exists_single_of_not_reached hr hname hrow hcol hat
      (by omega) hget hfree
    exact ⟨b.1, ⟨b, hb, hsmall, rfl⟩, hstart ▸ hat⟩
  · intro hex
    obtain ⟨row, ⟨b, hb, hsmall, rfl⟩, hat⟩ := hex
    obtain ⟨m, hm⟩ : ∃ m, b.2.members[0]? = some m :=
      ⟨_, List.getElem?_eq_getElem
        (List.length_pos_iff.mpr (hgroups b.2 (Group.mem_of_mem_placed hb)))⟩
    have hget := h.get_member_ne_empty hb hm hname hat
    have hbelow := PlannedRow.add_two_lt_length_plan
      (Group.data_mem_plan_iff.mpr ⟨b, hb, 0, m, hm, rfl, rfl⟩) (by simp) (by simp)
    refine ⟨hget, ⟨⟨?_, ?_⟩, ?_⟩, h.not_reached_of_single hr hgroups hname hrow hcol hb hsmall hat⟩
    · exact hat.2.trans hcol.symm
    · exact hat.1 ▸ Nat.le_add_right _ _
    · have := hat.1
      omega

/-- Every term of a total has its cell in every column. -/
theorem forall₂_terms (h : Marked template anchors columns groups g extent)
    (hgroups : ∀ b ∈ groups, b.members ≠ []) {col : Nat} {name : String}
    (hname : columns[col]? = some name) :
    List.Forall₂ (fun (c : Cell) row => c.IsAt extent.first row col)
      (extent.columnCells col (Group.subtotalRows groups ++ Group.singleRows groups))
      (Group.subtotalRows groups ++ Group.singleRows groups) := by
  have hplanned {row : Nat} (hrow : row ∈ Group.subtotalRows groups ++ Group.singleRows groups) :
      ∃ planned, (PlannedRow.plan (groups.map Group.records))[row]? = some planned := by
    rcases List.mem_append.mp hrow with hrow | hrow
    · obtain ⟨b, hb, hlarge, rfl⟩ := Group.mem_subtotalRows_iff.mp hrow
      exact ⟨_, Group.subtotal_mem_plan_iff.mpr ⟨b, hb, hlarge, rfl, rfl⟩⟩
    · obtain ⟨b, hb, -, rfl⟩ := Group.mem_singleRows_iff.mp hrow
      have hpos := List.length_pos_iff.mpr (hgroups b.2 (Group.mem_of_mem_placed hb))
      exact ⟨_, Group.data_mem_plan_iff.mpr
        ⟨b, hb, 0, _, List.getElem?_eq_getElem hpos, rfl, rfl⟩⟩
  have hcells : List.Forall₂ (fun (c : Cell) row => c.IsAt extent.first row col)
      (extent.columnCells col ((Group.subtotalRows groups ++ Group.singleRows groups).map id))
      (Group.subtotalRows groups ++ Group.singleRows groups) := by
    refine Extent.forall₂_columnCells fun row hrow => ?_
    obtain ⟨planned, hplan⟩ := hplanned hrow
    obtain ⟨c, hat⟩ := h.exists_isAt_of_planned hplan hname
    exact ⟨c, hat, hat⟩
  rwa [List.map_id] at hcells

/-- A total adds the subtotals of the larger groups and the records of the others. -/
theorem totalTerms_eq (h : Marked template anchors columns groups g extent)
    (hr : Resolved g extent kinds g' r) (hgroups : ∀ b ∈ groups, b.members ≠ [])
    {total : Cell} {col : Nat} {name : String} (hname : columns[col]? = some name)
    (hrow : total.row + 1 = extent.last.row) (hcol : total.col = extent.first.col + col) :
    totalTerms g extent r.subtotals total =
      extent.columnCells col (Group.subtotalRows groups ++ Group.singleRows groups) := by
  rw [Extent.columnCells_append, ← h.map_cell_subtotalsAbove hr hname hrow hcol,
    ← h.uncovered_eq hr hgroups hname hrow hcol]
  rfl

end Layout.Marked

end SheetReport
