import SheetReport.Proofs.Report.Clearing
import SheetReport.Proofs.Style.CellStyles

/-!
# Merged ranges follow the groups

A plan adds merged ranges one after another and passes over a range that overlaps an earlier one.
The ranges over subtotals never do: those of one column end above the subtotal row of their group
and begin below the subtotal rows before, and those of different columns have no column in common.
So every larger group is merged in every column that is to be merged. After them comes the block of
the order, which is the only range that can be passed over.

Main statement: `merges_follow_groups`.
-/

namespace SheetReport

open Resolution

/-- The range over a subtotal, if its column is one that is merged. -/
def Subtotal.mergeRange? (rules : StyleRules) (s : Subtotal) : Option Extent :=
  if rules.mergeColumns.contains s.column then
    s.summed.toOption.map fun ends => ⟨ends.1, ends.2⟩
  else none

/-- Whether a range covers the rows of a group in one column of a report, and no other cell. -/
def Extent.IsOver (m extent : Extent) (b : Nat × Group) (col : Nat) : Prop :=
  ∀ c : Cell, m.contains c = true ↔ ∃ k < b.2.size, c.IsAt extent.first (b.1 + k) col

namespace StylePlan

variable {p : StylePlan} {rules : StyleRules} {e : Extent} {c d bottom : Cell}

/-- A range that overlaps none before is added. -/
theorem addMerge_eq (h : ∀ m ∈ p.merges, m.overlaps e = false) :
    p.addMerge e = { p with merges := p.merges ++ [e] } := by
  have hany : p.merges.any (·.overlaps e) = false := by simpa using h
  rw [addMerge, addMerge?, hany]
  rfl

/-- Merging over a subtotal adds its range, if there is one. -/
theorem mergeGroup_eq (s : Subtotal) :
    mergeGroup rules p s = ((s.mergeRange? rules).map p.addMerge).getD p := by
  unfold mergeGroup Subtotal.mergeRange?
  split
  · cases s.summed <;> rfl
  · rfl

/-- If no two ranges overlap, all of them are merged. -/
theorem foldl_mergeGroup_eq {subtotals : List Subtotal}
    (h : (p.merges ++ subtotals.filterMap (Subtotal.mergeRange? rules)).Pairwise
      fun m m' => m.overlaps m' = false) :
    subtotals.foldl (mergeGroup rules) p =
      { p with merges := p.merges ++ subtotals.filterMap (Subtotal.mergeRange? rules) } := by
  induction subtotals generalizing p with
  | nil => simp
  | cons s rest ih =>
    rw [List.foldl_cons, mergeGroup_eq]
    cases hrange : s.mergeRange? rules with
    | none =>
      rw [List.filterMap_cons_none hrange] at h ⊢
      exact ih h
    | some e =>
      rw [List.filterMap_cons_some hrange] at h ⊢
      have hnew : ∀ m ∈ p.merges, m.overlaps e = false := fun m hm =>
        (List.pairwise_append.mp h).2.2 m hm e List.mem_cons_self
      rw [Option.map_some, Option.getD_some, addMerge_eq hnew, ih (by simpa using h)]
      simp

/-- A frame merges nothing. -/
@[simp] theorem merges_framed : (p.framed c bottom).merges = p.merges := by
  rw [framed, merges_modify, merges_outline]

/-- A cell is rotated by a frame from itself, and by no other. -/
theorem vertical_framed_iff (h : ((p.styleOf c).vertical) = false) :
    ((p.framed d bottom).styleOf c).vertical = true ↔ c = d := by
  obtain ⟨border, hborder⟩ := exists_styleOf_framed p c d bottom
  simp [hborder, h]

/-- A block that reaches down to a row ends in the same column there. -/
theorem blockDown_eq (h : c.row < bottom.row) : blockDown c bottom = ⟨c, c.inRowOf bottom⟩ := by
  rw [blockDown, if_pos (Nat.le_of_lt h)]

/-- Placing the order merges at most a block from the cell of its placeholder down to the last row
of the report. The cell is rotated if the block is merged, or if there is no row below. -/
theorem exists_merges_placeOrder (rules : StyleRules) (o : Outcome)
    (hvertical : ∀ c, (p.styleOf c).vertical = false) :
    ∃ block, (placeOrder rules o p).merges = p.merges ++ block ∧
      (block = [] ∨ ∃ filled, o.placeholders.find? (fun e => e.2 == rules.orderPlaceholder) =
          some filled ∧
        filled.1.row < o.extent.last.row ∧
        (∀ m ∈ p.merges, m.overlaps ⟨filled.1, filled.1.inRowOf o.extent.last⟩ = false) ∧
        block = [⟨filled.1, filled.1.inRowOf o.extent.last⟩]) ∧
      ∀ c, ((placeOrder rules o p).styleOf c).vertical = true ↔
        ∃ filled, o.placeholders.find? (fun e => e.2 == rules.orderPlaceholder) = some filled ∧
          filled.1 = c ∧
          (o.extent.last.row ≤ c.row ∨ block = [⟨c, c.inRowOf o.extent.last⟩]) := by
  unfold placeOrder
  cases hfind : o.placeholders.find? (fun e => e.2 == rules.orderPlaceholder) with
  | none => exact ⟨[], by simp, .inl rfl, by simp [hvertical]⟩
  | some filled =>
    obtain ⟨d, name⟩ := filled
    simp only [Option.some.injEq, exists_eq_left']
    rcases orderBlock_cases p d o.extent.last with
      ⟨hle, hblock⟩ | ⟨hlt, hclear, hblock⟩ | ⟨hlt, -, hblock⟩
    · refine ⟨[], by simp [hblock], .inl rfl, fun c => ?_⟩
      rw [hblock, vertical_framed_iff (hvertical c)]
      constructor
      · rintro rfl
        exact ⟨rfl, .inl hle⟩
      · exact fun h => h.1.symm
    · rw [blockDown_eq hlt] at hclear hblock
      let block : Extent := ⟨d, d.inRowOf o.extent.last⟩
      have hmerged (c : Cell) :
          (StylePlan.styleOf { p with merges := p.merges ++ [block] } c).vertical = false :=
        hvertical c
      refine ⟨[block], by simp [hblock, block], .inr ⟨hlt, hclear, rfl⟩, fun c => ?_⟩
      rw [hblock, vertical_framed_iff (hmerged c)]
      constructor
      · rintro rfl
        exact ⟨rfl, .inr rfl⟩
      · exact fun h => h.1.symm
    · refine ⟨[], by simp [hblock], .inl rfl, fun c => ?_⟩
      rw [hblock, hvertical]
      simp only [Bool.false_eq_true, List.nil_eq, reduceCtorEq, or_false, false_iff, not_and,
        Nat.not_le]
      rintro rfl
      exact hlt

end StylePlan

namespace Layout.Marked

variable {template g g' : Grid} {anchors : Anchors} {columns : List String}
  {groups : List Group} {extent : Extent} {kinds : ColumnKinds} {r : Resolution}
  {rules : StyleRules} {m m' : Extent} {s s' : Subtotal}

/-- The range over a subtotal goes from the first to the last row of its group, in its column. -/
theorem exists_of_mergeRange? (h : Marked template anchors columns groups g extent)
    (hr : Resolved g extent kinds g' r) (hs : s ∈ r.subtotals)
    (hrange : s.mergeRange? rules = some m) :
    ∃ b ∈ Group.placed groups, 1 < b.2.size ∧ ∃ col, columns[col]? = some s.column ∧
      s.column ∈ rules.mergeColumns ∧ s.cell.IsAt extent.first (b.1 + b.2.size) col ∧
      m.first.IsAt extent.first b.1 col ∧
      m.last.IsAt extent.first (b.1 + b.2.size - 1) col := by
  obtain ⟨⟨b, hb, hlarge, hsize, col, hname, hat⟩, -⟩ := (h.mem_subtotals_iff hr).mp hs
  rw [← hsize] at hat
  obtain ⟨first, last, hsummed, hfirst, hlast⟩ := Subtotal.summed_eq_ok (by omega) hat
  unfold Subtotal.mergeRange? at hrange
  split at hrange
  · rename_i hcolumn
    rw [hsummed] at hrange
    obtain rfl := Option.some.inj hrange
    rw [hsize] at hat hlast
    exact ⟨b, hb, hlarge, col, hname, List.contains_iff_mem.mp hcolumn, hat, hfirst, hlast⟩
  · contradiction

/-- Two ranges over subtotals have no row or no column in common. -/
theorem overlaps_eq_false (h : Marked template anchors columns groups g extent)
    (hr : Resolved g extent kinds g' r) (hs : s ∈ r.subtotals) (hs' : s' ∈ r.subtotals)
    (hlt : s.cell.index < s'.cell.index) (hrange : s.mergeRange? rules = some m)
    (hrange' : s'.mergeRange? rules = some m') : m.overlaps m' = false := by
  obtain ⟨b, hb, hlarge, col, -, -, hat, hfirst, hlast⟩ := h.exists_of_mergeRange? hr hs hrange
  obtain ⟨b', hb', hlarge', col', -, -, hat', hfirst', hlast'⟩ :=
    h.exists_of_mergeRange? hr hs' hrange'
  have hbelow := Group.placed_cases hb hb'
  rw [if_pos hlarge, if_pos hlarge'] at hbelow
  unfold Cell.index at hlt
  unfold Cell.IsAt at hat hat' hfirst hfirst' hlast hlast'
  have hcol := s.cell.col_lt
  have hcol' := s'.cell.col_lt
  simp only [Extent.overlaps, Bool.and_eq_false_iff, decide_eq_false_iff_not]
  rcases hbelow with rfl | hbelow | hbelow
  · omega
  · omega
  · omega

/-- No two ranges over subtotals overlap. -/
theorem pairwise_mergeRanges (h : Marked template anchors columns groups g extent)
    (hr : Resolved g extent kinds g' r) (rules : StyleRules) :
    (r.subtotals.filterMap (Subtotal.mergeRange? rules)).Pairwise
      fun m m' => m.overlaps m' = false := by
  refine List.pairwise_filterMap.mpr (hr.pairwise_subtotals.imp_of_mem ?_)
  intro s s' hs hs' hlt m hrange m' hrange'
  exact h.overlaps_eq_false hr hs hs' hlt hrange hrange'

/-- A range over subtotals goes from the first to the last row of a larger group, in a column that
is merged. -/
theorem exists_of_mem_mergeRanges (h : Marked template anchors columns groups g extent)
    (hr : Resolved g extent kinds g' r)
    (hm : m ∈ r.subtotals.filterMap (Subtotal.mergeRange? rules)) :
    ∃ b ∈ Group.placed groups, 1 < b.2.size ∧ ∃ col name, columns[col]? = some name ∧
      name ∈ rules.mergeColumns ∧ m.first.IsAt extent.first b.1 col ∧
      m.last.IsAt extent.first (b.1 + b.2.size - 1) col := by
  obtain ⟨s, hs, hrange⟩ := List.mem_filterMap.mp hm
  obtain ⟨b, hb, hlarge, col, hname, hmerged, -, hends⟩ := h.exists_of_mergeRange? hr hs hrange
  exact ⟨b, hb, hlarge, col, s.column, hname, hmerged, hends⟩

/-- Every larger group has a range in every column that is merged. -/
theorem exists_mem_mergeRanges (h : Marked template anchors columns groups g extent)
    (hr : Resolved g extent kinds g' r) {b : Nat × Group} (hb : b ∈ Group.placed groups)
    (hlarge : 1 < b.2.size) {col : Nat} {name : String} (hname : columns[col]? = some name)
    (hmerged : name ∈ rules.mergeColumns) :
    ∃ m ∈ r.subtotals.filterMap (Subtotal.mergeRange? rules),
      m.first.IsAt extent.first b.1 col ∧ m.last.IsAt extent.first (b.1 + b.2.size - 1) col := by
  obtain ⟨c, hat⟩ := h.exists_subtotal_cell hb hlarge hname
  obtain ⟨first, last, hsummed, hends⟩ := Subtotal.summed_eq_ok
    (s := ⟨c, b.2.size, name, kinds.classify name⟩) (Nat.zero_lt_of_lt hlarge) hat
  refine ⟨⟨first, last⟩, List.mem_filterMap.mpr
    ⟨_, h.mem_subtotals_of_isAt hr hb hlarge hname hat, ?_⟩, hends⟩
  rw [Subtotal.mergeRange?, if_pos (List.contains_iff_mem.mpr hmerged), hsummed]
  rfl

end Layout.Marked

namespace Extent

variable {m m' extent : Extent} {b : Nat × Group} {col : Nat}

/-- A range between the first and the last row of a group covers its rows. -/
theorem isOver_of_isAt (hsize : 0 < b.2.size) (hfirst : m.first.IsAt extent.first b.1 col)
    (hlast : m.last.IsAt extent.first (b.1 + b.2.size - 1) col) : m.IsOver extent b col := by
  intro c
  rw [← mem_cells]
  exact mem_cells_iff_of_isAt hsize hfirst hlast

/-- A range between the first and the last row of a larger group has two cells at least. -/
theorem two_cells_of_isAt (hlarge : 1 < b.2.size) (hfirst : m.first.IsAt extent.first b.1 col)
    (hlast : m.last.IsAt extent.first (b.1 + b.2.size - 1) col) :
    m.first.row ≤ m.last.row ∧ m.first.col ≤ m.last.col ∧ m.first ≠ m.last := by
  unfold Cell.IsAt at hfirst hlast
  refine ⟨by omega, by omega, fun heq => ?_⟩
  have hrow : m.first.row = m.last.row := congrArg Cell.row heq
  omega

/-- Of ranges that do not overlap, one at most covers the rows of a group in a column. -/
theorem IsOver.unique {merges : List Extent}
    (hmerges : merges.Pairwise fun m m' => m.overlaps m' = false) (hm : m ∈ merges)
    (hm' : m' ∈ merges) (hfirst : m.contains m.first = true) (h : m.IsOver extent b col)
    (h' : m'.IsOver extent b col) : m' = m := by
  have hfirst' : m'.contains m.first = true := (h' m.first).mpr ((h m.first).mp hfirst)
  have hboth := overlaps_of_contains hfirst hfirst'
  have hboth' := overlaps_of_contains hfirst' hfirst
  refine List.Pairwise.forall_of_forall_of_flip (R := fun m m' => m.overlaps m' = true →
    m'.overlaps m = true → m' = m) (fun _ _ _ _ => rfl) ?_ ?_ hm hm' hboth hboth'
  · refine hmerges.imp fun {a b} hab hover _ => ?_
    rw [hab] at hover
    contradiction
  · refine hmerges.imp fun {a b} hab _ hover => ?_
    rw [hab] at hover
    contradiction

end Extent

namespace Assembler

variable {a : Assembler} {template laid resolved final : Grid} {records : Records}
  {placeholders : Placeholders} {groups : List Group} {anchors : Anchors} {outcome : Outcome}

/-- The tags that were cleared stood in different cells. -/
theorem Assembled.nodup_stripped (h : Assembled a template records placeholders groups anchors
    laid resolved final outcome) : (outcome.stripped.map Prod.fst).Nodup := by
  rw [h.stripped_eq]
  exact Cell.nodup_of_pairwise_index (List.pairwise_map.mpr (Markup.pairwise_remaining _))

/-- Over the subtotals of a report, all ranges are merged. -/
theorem Assembled.merges_merged (h : Assembled a template records placeholders groups anchors laid
    resolved final outcome)
    (hm : Layout.Marked template anchors records.columns groups laid outcome.extent)
    (rules : StyleRules) (formats : SheetFormats) :
    (StylePlan.merged final outcome rules formats).merges =
      outcome.resolution.subtotals.filterMap (Subtotal.mergeRange? rules) := by
  have hclear := hm.pairwise_mergeRanges h.resolves rules
  rw [StylePlan.merged, StylePlan.foldl_mergeGroup_eq, StylePlan.merges_styled, List.nil_append]
  rwa [StylePlan.merges_styled]

/-- Before the order is placed, no cell is rotated. -/
theorem Assembled.vertical_merged (h : Assembled a template records placeholders groups anchors
    laid resolved final outcome) (rules : StyleRules) (formats : SheetFormats) (c : Cell) :
    ((StylePlan.merged final outcome rules formats).styleOf c).vertical = false := by
  rw [StylePlan.styleOf_merged, StylePlan.styleOf_styled _ _ _ h.nodup_stripped]

/-- A plan merges each larger group in each column that is to be merged, over exactly the rows of
the group, and no other group; besides it merges one block at most, from the cell of the order's
placeholder down to the last row of the report. No two merged ranges have a cell in common, and
each has two cells at least. The cell of the placeholder is rotated if and only if its block is
merged or is that cell alone. -/
theorem merges_follow_groups {a : Assembler} {template final : Grid} {records : Records}
    {placeholders : Placeholders} {outcome : Outcome}
    (hrun : a.run template records placeholders = .ok (final, outcome))
    (htemplate : template.Lacks Value.isAggregate) (hrecords : records.Lacks Value.isMarkup)
    (rules : StyleRules) (formats : SheetFormats) :
    ∃ groups own block, a.grouper.build records = .ok groups ∧
      (Group.placed groups).map Prod.snd = groups ∧
      (∀ b ∈ Group.placed groups, ∀ k m, b.2.members[k]? = some m →
        (PlannedRow.plan (groups.map Group.records))[b.1 + k]? = some (.data m.record)) ∧
      (StylePlan.build final outcome rules formats).merges = own ++ block ∧
      (∀ b ∈ Group.placed groups, 1 < b.2.size → ∀ col name, records.columns[col]? = some name →
        name ∈ rules.mergeColumns → ∃ m ∈ own, m.IsOver outcome.extent b col ∧
          ∀ m' ∈ own ++ block, m'.IsOver outcome.extent b col → m' = m) ∧
      (∀ m ∈ own, ∃ b ∈ Group.placed groups, 1 < b.2.size ∧
        ∃ col name, records.columns[col]? = some name ∧ name ∈ rules.mergeColumns ∧
          m.IsOver outcome.extent b col) ∧
      (block = [] ∨ ∃ filled,
        outcome.placeholders.find? (fun e => e.2 == rules.orderPlaceholder) = some filled ∧
          filled.1.row < outcome.extent.last.row ∧
          block = [⟨filled.1, filled.1.inRowOf outcome.extent.last⟩]) ∧
      ((own ++ block).Pairwise fun m m' =>
        ∀ c, ¬ (m.contains c = true ∧ m'.contains c = true)) ∧
      (∀ m ∈ own ++ block,
        m.first.row ≤ m.last.row ∧ m.first.col ≤ m.last.col ∧ m.first ≠ m.last) ∧
      ∀ c, ((StylePlan.build final outcome rules formats).styleOf c).vertical = true ↔
        ∃ filled,
          outcome.placeholders.find? (fun e => e.2 == rules.orderPlaceholder) = some filled ∧
            filled.1 = c ∧
            (outcome.extent.last.row ≤ c.row ∨
              block = [⟨c, c.inRowOf outcome.extent.last⟩]) := by
  obtain ⟨groups, anchors, laid, resolved, h⟩ := run_eq_ok hrun
  have hm := h.marked htemplate (hrecords.mono fun _ => Value.not_isAggregate_of_not_isMarkup)
  let own := outcome.resolution.subtotals.filterMap (Subtotal.mergeRange? rules)
  obtain ⟨block, hmerges, hblock, hrotated⟩ :=
    StylePlan.exists_merges_placeOrder rules outcome (h.vertical_merged rules formats)
  rw [h.merges_merged hm] at hmerges hblock
  have hclear : (own ++ block).Pairwise fun m m' => m.overlaps m' = false := by
    have hown := hm.pairwise_mergeRanges h.resolves rules
    rcases hblock with rfl | ⟨filled, -, -, hblock, rfl⟩
    · rwa [List.append_nil]
    · refine List.pairwise_append.mpr ⟨hown, List.pairwise_singleton _ _, fun m hm m' hm' => ?_⟩
      rw [List.mem_singleton.mp hm']
      exact hblock m hm
  refine ⟨groups, own, block, h.build_eq, Group.map_snd_placed groups, fun b hb k m hk => ?_,
    hmerges, fun b hb hlarge col name hname hmergeable => ?_, fun m hmem => ?_, ?_, ?_,
    fun m hmem => ?_, hrotated⟩
  · exact Group.data_mem_plan_iff.mpr ⟨b, hb, k, m, hk, rfl, rfl⟩
  · obtain ⟨m, hmem, hfirst, hlast⟩ :=
      hm.exists_mem_mergeRanges h.resolves hb hlarge hname hmergeable
    have hover := Extent.isOver_of_isAt (Nat.zero_lt_of_lt hlarge) hfirst hlast
    have hcontains : m.contains m.first = true :=
      (hover m.first).mpr ⟨0, Nat.zero_lt_of_lt hlarge, hfirst⟩
    exact ⟨m, hmem, hover, fun m' hm' hover' =>
      Extent.IsOver.unique hclear (List.mem_append_left _ hmem) hm' hcontains hover hover'⟩
  · obtain ⟨b, hb, hlarge, col, name, hname, hmergeable, hfirst, hlast⟩ :=
      hm.exists_of_mem_mergeRanges h.resolves hmem
    exact ⟨b, hb, hlarge, col, name, hname, hmergeable,
      Extent.isOver_of_isAt (Nat.zero_lt_of_lt hlarge) hfirst hlast⟩
  · rcases hblock with hnone | ⟨filled, hfind, hbelow, -, hsome⟩
    · exact .inl hnone
    · exact .inr ⟨filled, hfind, hbelow, hsome⟩
  · refine hclear.imp fun {m m'} hover c hboth => ?_
    rw [Extent.overlaps_of_contains hboth.1 hboth.2] at hover
    contradiction
  · rcases List.mem_append.mp hmem with hmem | hmem
    · obtain ⟨b, -, hlarge, col, -, -, -, hfirst, hlast⟩ :=
        hm.exists_of_mem_mergeRanges h.resolves hmem
      exact Extent.two_cells_of_isAt hlarge hfirst hlast
    · rcases hblock with rfl | ⟨filled, -, hbelow, -, rfl⟩
      · contradiction
      · rw [List.mem_singleton.mp hmem]
        refine ⟨Nat.le_of_lt hbelow, Nat.le_refl _, fun heq => ?_⟩
        have hrow : filled.1.row = (filled.1.inRowOf outcome.extent.last).row :=
          congrArg Cell.row heq
        exact Nat.ne_of_lt hbelow hrow

/-- In the small report, the two cells of the larger group under the delivery indicator are
merged. -/
theorem smallReport_merges_follow_groups :
    SmallReport.template.Lacks Value.isAggregate ∧ SmallReport.records.Lacks Value.isMarkup ∧
      ∃ final outcome,
        SmallReport.assembler.run SmallReport.template SmallReport.records
          SmallReport.placeholders = .ok (final, outcome) ∧
        ∃ m ∈ (StylePlan.build final outcome {} {}).merges,
          ∀ c, m.contains c = true ↔ c = SmallReport.cell 1 4 ∨ c = SmallReport.cell 2 4 := by
  have htemplate : SmallReport.template.Lacks Value.isAggregate := by decide +kernel
  have hrecords : SmallReport.records.Lacks Value.isMarkup := by decide +kernel
  obtain ⟨final, outcome, hrun, hfirst⟩ := SmallReport.exists_run_eq_ok
  refine ⟨htemplate, hrecords, final, outcome, hrun, ?_⟩
  obtain ⟨groups, own, block, hgroups, -, -, hmerges, hlarger, -⟩ :=
    merges_follow_groups hrun htemplate hrecords {} {}
  obtain rfl := Except.ok.inj (SmallReport.build_eq.symm.trans hgroups)
  obtain ⟨m, hm, hover, -⟩ := hlarger (0, ⟨⟨"", "", .lineItem "ORD-1-1-1"⟩,
    [⟨0, ⟨[.text "ORD-1-1-1", .text "10"]⟩⟩, ⟨1, ⟨[.text "ORD-1-1-1"]⟩⟩]⟩)
    (by decide +kernel) (by decide) 4 "Delivery Indicator" rfl (by decide)
  rw [hmerges]
  refine ⟨m, List.mem_append_left _ hm, fun c => (hover c).trans ?_⟩
  rw [hfirst]
  constructor
  · intro hex
    obtain ⟨k, hk, hat⟩ := hex
    obtain rfl | rfl : k = 0 ∨ k = 1 := by
      change k < 2 at hk
      omega
    · exact .inl (hat.unique ⟨rfl, rfl⟩)
    · exact .inr (hat.unique ⟨rfl, rfl⟩)
  · intro heq
    rcases heq with rfl | rfl
    · exact ⟨0, by decide, rfl, rfl⟩
    · exact ⟨1, by decide, rfl, rfl⟩

end Assembler

end SheetReport
