import SheetReport.Proofs.Report.AggregateTags
import SheetReport.Proofs.Report.Grouping
import SheetReport.Proofs.Sorting

/-!
# Which cells subtotals reach

A subtotal finds its group again by counting rows upwards from its own. As it stands right below
the members of the group, it reaches exactly their rows, and since groups stand one below the
other, no two subtotals of a column reach the same cell.

Sorting by column keeps the order of rows in every column, so the search for an ambiguous cell
compares each subtotal with the next one below it only. That is enough: a subtotal that reaches
up to below the next one above it reaches up to below all of them.

Main statements: `Subtotal.ambiguity?_eq_none_iff`, `Rendered.marked` for where the aggregate
tags stand, and `Marked.ambiguity?_eq_none`.
-/

namespace SheetReport

namespace Subtotal

/-- A subtotal reaches as many rows above its own as its size says. -/
theorem reaches_iff {s : Subtotal} {c : Cell} :
    s.reaches c = true ↔
      c.col = s.cell.col ∧ s.cell.row - s.size ≤ c.row ∧ c.row ≤ s.cell.row := by
  simp only [reaches, Bool.and_eq_true, beq_iff_eq, decide_eq_true_eq, and_assoc]
  rfl

/-- Two subtotals do not clash exactly when the second, in the same column, reaches up to below
the first only. -/
theorem clash?_eq_none_iff {a b : Subtotal} :
    clash? a b = none ↔ (a.cell.col = b.cell.col → a.cell.row < b.top.row) := by
  unfold clash?
  simp only [ite_eq_right_iff, reduceCtorEq, imp_false, not_and, Nat.not_le]

/-- Whether a subtotal comes before another by column, and in a column by row. -/
def ColumnLt (a b : Subtotal) : Prop :=
  a.cell.col < b.cell.col ∨ a.cell.col = b.cell.col ∧ a.cell.row < b.cell.row

/-- Subtotals listed row by row are sorted by column, and by row in every column. -/
theorem pairwise_mergeSort_columnLe {l : List Subtotal}
    (h : l.Pairwise fun a b => a.cell.index < b.cell.index) :
    (l.mergeSort columnLe).Pairwise ColumnLt := by
  have htrans : ∀ a b c : Subtotal, columnLe a b = true → columnLe b c = true →
      columnLe a c = true := by
    simp only [columnLe, decide_eq_true_eq]
    omega
  have htotal : ∀ a b : Subtotal, (columnLe a b || columnLe b a) = true := by
    simp only [columnLe, Bool.or_eq_true, decide_eq_true_eq]
    omega
  have hties : l.Pairwise fun a b => columnLe a b = true → columnLe b a = true →
      a.cell.row < b.cell.row := by
    refine h.imp fun {a b} hindex hab hba => ?_
    simp only [columnLe, decide_eq_true_eq] at hab hba
    unfold Cell.index at hindex
    omega
  refine (pairwise_mergeSort_of_ties htrans htotal hties).imp fun {a b} hab => ?_
  simp only [columnLe, decide_eq_true_eq] at hab
  unfold ColumnLt
  omega

/-- Where subtotals are sorted by column and row, no neighbours clash exactly when each reaches
up to below all those above it in its column. -/
theorem firstClash?_eq_none_iff {l : List Subtotal} (h : l.Pairwise ColumnLt) :
    firstClash? l = none ↔
      l.Pairwise fun a b => a.cell.col = b.cell.col → a.cell.row < b.top.row := by
  induction l with
  | nil => simp [firstClash?]
  | cons a rest ih =>
    cases rest with
    | nil => simp [firstClash?]
    | cons b rest =>
      obtain ⟨habove, hsorted⟩ := List.pairwise_cons.mp h
      obtain ⟨hbelow, -⟩ := List.pairwise_cons.mp hsorted
      rw [firstClash?, Option.or_eq_none_iff, clash?_eq_none_iff, ih hsorted,
        List.pairwise_cons (a := a), List.forall_mem_cons]
      constructor
      · rintro ⟨hnext, hrest⟩
        refine ⟨⟨hnext, fun c hc hcol => ?_⟩, hrest⟩
        have hab := habove b List.mem_cons_self
        have hbc := hbelow c hc
        unfold ColumnLt at hab hbc
        -- `b` stands between `a` and `c`, so all three are of one column
        have hclear := (List.pairwise_cons.mp hrest).1 c hc (by omega)
        omega
      · rintro ⟨⟨hnext, -⟩, hrest⟩
        exact ⟨hnext, hrest⟩

/-- Whether each subtotal reaches up to below all those above it in its column. -/
def Clear (l : List Subtotal) : Prop :=
  ∀ a ∈ l, ∀ b ∈ l, a.cell.col = b.cell.col → a.cell.row < b.cell.row → a.cell.row < b.top.row

/-- No cell is ambiguous exactly when the subtotals are clear of each other. -/
theorem ambiguity?_eq_none_iff {l : List Subtotal}
    (hrows : l.Pairwise fun a b => a.cell.index < b.cell.index) :
    ambiguity? l = none ↔ Clear l := by
  have hsorted := pairwise_mergeSort_columnLe hrows
  rw [ambiguity?, firstClash?_eq_none_iff hsorted]
  constructor
  · intro hclear a ha b hb
    replace ha : a ∈ l.mergeSort columnLe := List.mem_mergeSort.mpr ha
    replace hb : b ∈ l.mergeSort columnLe := List.mem_mergeSort.mpr hb
    refine List.Pairwise.forall_of_forall_of_flip
      (R := fun a b => a.cell.col = b.cell.col → a.cell.row < b.cell.row →
        a.cell.row < b.top.row) (fun _ _ _ hlt => absurd hlt (Nat.lt_irrefl _)) ?_ ?_ ha hb
    · exact hclear.imp fun h hcol _ => h hcol
    · refine hsorted.imp fun {a b} h hcol hlt => ?_
      unfold ColumnLt at h
      omega
  · intro hclear
    refine hsorted.imp_of_mem fun {a b} ha hb h hcol => ?_
    rw [List.mem_mergeSort] at ha hb
    unfold ColumnLt at h
    exact hclear a ha b hb hcol (by omega)

end Subtotal

namespace Layout

/-- A laid out report whose aggregate tags are those of its own subtotal rows and total row. -/
structure Marked (template : Grid) (anchors : Anchors) (columns : List String)
    (groups : List Group) (g : Grid) (extent : Extent) : Prop extends
    Rendered template anchors columns (PlannedRow.plan (groups.map Group.records)) g extent where
  subtotal_iff : ∀ {c : Cell} {size : Nat} {name : String}, g.HoldsTag c (.subtotal size name) ↔
    ∃ b ∈ Group.placed groups, 1 < b.2.size ∧ size = b.2.size ∧
      ∃ col, columns[col]? = some name ∧ c.IsAt extent.first (b.1 + b.2.size) col
  total_iff : ∀ {c : Cell} {name : String}, g.HoldsTag c (.total name) ↔
    ∃ col, columns[col]? = some name ∧ c.row + 1 = extent.last.row ∧
      c.col = extent.first.col + col

variable {template g g' : Grid} {anchors : Anchors} {columns : List String}
  {groups : List Group} {extent : Extent}

/-- If template and records hold no aggregates, the aggregates of a laid out report are its
own. -/
theorem Rendered.marked
    (h : Rendered template anchors columns (PlannedRow.plan (groups.map Group.records)) g extent)
    (hencodable : ∀ name ∈ columns, Tag.isEncodable name = true)
    (htemplate : template.Lacks Value.isAggregate)
    (hrecords : ∀ r, .data r ∈ PlannedRow.plan (groups.map Group.records) →
      r.Lacks Value.isAggregate) :
    Marked template anchors columns groups g extent where
  toRendered := h
  subtotal_iff := by
    intro c size name
    rw [h.holdsTag_subtotal_iff hencodable htemplate hrecords]
    simp only [Group.subtotal_mem_plan_iff]
    constructor
    · intro hex
      obtain ⟨index, col, ⟨b, hb, hlarge, hsize, rfl⟩, hname, hat⟩ := hex
      exact ⟨b, hb, hlarge, hsize, col, hname, hat⟩
    · intro hex
      obtain ⟨b, hb, hlarge, hsize, col, hname, hat⟩ := hex
      exact ⟨_, col, ⟨b, hb, hlarge, hsize, rfl⟩, hname, hat⟩
  total_iff := by
    intro c name
    rw [h.holdsTag_total_iff hencodable htemplate hrecords]
    have hlast := h.last_row
    rw [← h.first] at hlast
    simp only [PlannedRow.total_mem_plan_iff, Cell.IsAt]
    constructor
    · intro hex
      obtain ⟨index, col, hindex, hname, hat⟩ := hex
      exact ⟨col, hname, by omega, hat.2⟩
    · intro hex
      obtain ⟨col, hname, hrow, hcol⟩ := hex
      have hlength := PlannedRow.two_le_length_plan (groups.map Group.records)
      exact ⟨_, col, Nat.sub_add_cancel hlength, hname, by omega, hcol⟩

namespace Marked

/-- The subtotal row of a larger group has a cell in the column of a name. -/
theorem exists_subtotal_cell (h : Marked template anchors columns groups g extent)
    {b : Nat × Group} {col : Nat} {name : String} (hb : b ∈ Group.placed groups)
    (hlarge : 1 < b.2.size) (hname : columns[col]? = some name) :
    ∃ c : Cell, c.IsAt extent.first (b.1 + b.2.size) col :=
  h.exists_isAt_of_planned (Group.subtotal_mem_plan_iff.mpr ⟨b, hb, hlarge, rfl, rfl⟩) hname

/-- A subtotal reaches from the first member of its group to its own row. -/
theorem exists_reach (h : Marked template anchors columns groups g extent) {s : Subtotal}
    (hs : g.HoldsTag s.cell (.subtotal s.size s.column)) :
    ∃ b ∈ Group.placed groups, 1 < b.2.size ∧ s.size = b.2.size ∧
      s.top.row = extent.first.row + b.1 ∧ s.cell.row = extent.first.row + b.1 + b.2.size := by
  obtain ⟨b, hb, hlarge, hsize, col, -, hat⟩ := h.subtotal_iff.mp hs
  refine ⟨b, hb, hlarge, hsize, ?_, ?_⟩
  · simp only [Subtotal.top, hat.1, hsize]
    omega
  · rw [hat.1, Nat.add_assoc]

/-- A subtotal reaches up to below every subtotal row above it. -/
theorem row_lt_top (h : Marked template anchors columns groups g extent) {s s' : Subtotal}
    (hs : g.HoldsTag s.cell (.subtotal s.size s.column))
    (hs' : g.HoldsTag s'.cell (.subtotal s'.size s'.column))
    (hlt : s.cell.row < s'.cell.row) : s.cell.row < s'.top.row := by
  obtain ⟨b, hb, hlarge, -, -, hrow⟩ := h.exists_reach hs
  obtain ⟨b', hb', hlarge', -, htop', hrow'⟩ := h.exists_reach hs'
  have hbelow := Group.placed_cases hb hb'
  rw [if_pos hlarge, if_pos hlarge'] at hbelow
  rcases hbelow with rfl | hbelow | hbelow
  · omega
  · omega
  · omega

/-- No cell is ambiguous. -/
theorem ambiguity?_eq_none (h : Marked template anchors columns groups g extent)
    {tags : List (Cell × Tag)} (htags : g.tags = .ok tags) (kinds : ColumnKinds) :
    Subtotal.ambiguity? (Resolution.subtotalsOf kinds tags) = none := by
  have hholds {s : Subtotal} (hs : s ∈ Resolution.subtotalsOf kinds tags) :
      g.HoldsTag s.cell (.subtotal s.size s.column) :=
    (Grid.mem_tags_iff htags).mp (Resolution.mem_subtotalsOf_iff.mp hs).1
  have hclear : Subtotal.Clear (Resolution.subtotalsOf kinds tags) :=
    fun a ha b hb _ => h.row_lt_top (hholds ha) (hholds hb)
  exact (Subtotal.ambiguity?_eq_none_iff
    (Resolution.pairwise_subtotalsOf (Grid.pairwise_tags htags))).mpr hclear

end Marked

end Layout

end SheetReport
