import SheetReport.Proofs.Report.Success
import SheetReport.Proofs.Workbook.Stored

/-!
# Which cells of a report are hidden by merged ranges

A plan merges the cells over a subtotal, in the columns that are to be merged, and the block from
the placeholder of the order down to the last row of the report. A workbook shows only the first
cell of a merged range, so in the other columns of the report a value can be hidden in two ways
only: it stands below the placeholder of the order, or a subtotal of the template from below the
report reaches it.

Main statements: `mem_merges_build` for the ranges of a plan, and
`shows_values_of_unmerged_columns`.
-/

namespace SheetReport

namespace StylePlan

variable {p : StylePlan} {rules : StyleRules} {m e : Extent} {extent : Extent}

/-- Changing the style of a cell merges nothing. -/
@[simp] theorem merges_modify (c : Cell) (change : CellStyle → CellStyle) :
    (p.modify c change).merges = p.merges := rfl

/-- Changing the styles of cells changes nothing else. -/
theorem exists_modifyAll_eq (cells : List Cell) (change : Cell → CellStyle → CellStyle) :
    ∃ styles, p.modifyAll cells change = { p with styles := styles } := by
  unfold modifyAll
  induction cells generalizing p with
  | nil => exact ⟨p.styles, rfl⟩
  | cons c rest ih =>
    obtain ⟨styles, hrest⟩ := @ih (p.modify c (change c))
    exact ⟨styles, hrest⟩

/-- Changing the styles of cells merges nothing. -/
@[simp] theorem merges_modifyAll (cells : List Cell) (change : Cell → CellStyle → CellStyle) :
    (p.modifyAll cells change).merges = p.merges := by
  obtain ⟨styles, hstyles⟩ := @exists_modifyAll_eq p cells change
  rw [hstyles]

/-- Drawing a border merges nothing. -/
@[simp] theorem merges_outline : (p.outline e).merges = p.merges := merges_modifyAll _ _

/-- Marking a cleared tag merges nothing. -/
@[simp] theorem merges_markStripped (tag : Cell × String) :
    (markStripped rules extent p tag).merges = p.merges := by
  have hplain : (if extent.contains tag.1 then p.modify tag.1 (bold tag.1) else p).merges =
      p.merges := by
    split <;> rfl
  unfold markStripped
  dsimp only
  split
  · split
    · rfl
    · exact hplain
  · split
    · split <;> rfl
    · exact hplain
  · exact hplain

/-- Marking the cleared tags merges nothing. -/
theorem merges_foldl_markStripped (tags : List (Cell × String)) :
    (tags.foldl (markStripped rules extent) p).merges = p.merges := by
  induction tags generalizing p with
  | nil => rfl
  | cons tag rest ih => rw [List.foldl_cons, ih, merges_markStripped]

/-- A range that can be added becomes the last one, and nothing else changes. -/
theorem eq_of_addMerge? {p' : StylePlan} (h : p.addMerge? e = some p') :
    p' = { p with merges := p.merges ++ [e] } := by
  unfold addMerge? at h
  split at h
  · contradiction
  · exact (Option.some.inj h).symm

/-- A range that can be added becomes the last one. -/
theorem merges_of_addMerge? {p' : StylePlan} (h : p.addMerge? e = some p') :
    p'.merges = p.merges ++ [e] := by
  rw [eq_of_addMerge? h]

/-- Adding a range adds that one at most. -/
theorem mem_merges_addMerge (h : m ∈ (p.addMerge e).merges) : m ∈ p.merges ∨ m = e := by
  unfold addMerge at h
  cases hadd : p.addMerge? e with
  | none =>
    rw [hadd] at h
    exact .inl h
  | some p' =>
    rw [hadd, Option.getD_some, merges_of_addMerge? hadd] at h
    simpa using h

/-- Over a subtotal, the range that it sums is merged at most. -/
theorem mem_merges_mergeGroup {s : Subtotal} (h : m ∈ (mergeGroup rules p s).merges) :
    m ∈ p.merges ∨ s.column ∈ rules.mergeColumns ∧ s.summed = .ok (m.first, m.last) := by
  unfold mergeGroup at h
  split at h
  · rename_i hcolumn
    split at h
    · rename_i first last hsummed
      rcases mem_merges_addMerge h with hold | rfl
      · exact .inl hold
      · exact .inr ⟨List.contains_iff_mem.mp hcolumn, hsummed⟩
    · exact .inl h
  · exact .inl h

/-- Over the subtotals, the ranges that they sum are merged at most. -/
theorem mem_merges_foldl_mergeGroup {subtotals : List Subtotal}
    (h : m ∈ (subtotals.foldl (mergeGroup rules) p).merges) :
    m ∈ p.merges ∨
      ∃ s ∈ subtotals, s.column ∈ rules.mergeColumns ∧ s.summed = .ok (m.first, m.last) := by
  induction subtotals generalizing p with
  | nil => exact .inl h
  | cons s rest ih =>
    rcases ih h with hold | ⟨s', hs', hmerged⟩
    · rcases mem_merges_mergeGroup hold with hold | hmerged
      · exact .inl hold
      · exact .inr ⟨s, List.mem_cons_self, hmerged⟩
    · exact .inr ⟨s', List.mem_cons_of_mem _ hs', hmerged⟩

/-- The block of the order is merged at most. -/
theorem mem_merges_orderBlock {c bottom : Cell} (h : m ∈ (p.orderBlock c bottom).merges) :
    m ∈ p.merges ∨ m = blockDown c bottom := by
  unfold orderBlock at h
  dsimp only at h
  split at h
  · exact .inl h
  · rename_i p' hblock
    rw [merges_modify, merges_outline] at h
    split at hblock
    · obtain rfl := Option.some.inj hblock
      exact .inl h
    · rw [merges_of_addMerge? hblock] at h
      simpa using h

/-- The plan of a report before anything is merged. -/
def styled (g : Grid) (o : Outcome) (rules : StyleRules) (formats : SheetFormats) : StylePlan :=
  let dates := o.extent.cells.filter fun c => (g.get c).isDate
  let p := (start rules formats o.extent).modifyAll (o.resolution.writes.map Prod.fst) bold
  let p := o.stripped.foldl (markStripped rules o.extent) p
  (p.modifyAll dates fun _ s => { s with date := true }).outline o.extent

/-- Before the subtotals, nothing is merged. -/
theorem merges_styled (g : Grid) (o : Outcome) (formats : SheetFormats) :
    (styled g o rules formats).merges = [] := by
  unfold styled
  dsimp only
  rw [merges_outline, merges_modifyAll, merges_foldl_markStripped, merges_modifyAll]
  rfl

/-- The ranges of a plan are those of subtotals in the columns to merge, and the block of the
order. -/
theorem mem_merges_build {g : Grid} {o : Outcome} {formats : SheetFormats}
    (h : m ∈ (build g o rules formats).merges) :
    (∃ s ∈ o.resolution.subtotals, s.column ∈ rules.mergeColumns ∧
      s.summed = .ok (m.first, m.last)) ∨
    ∃ filled, o.placeholders.find? (fun e => e.2 == rules.orderPlaceholder) = some filled ∧
      m = blockDown filled.1 o.extent.last := by
  have hsubtotals
      (h : m ∈ (o.resolution.subtotals.foldl (mergeGroup rules) (styled g o rules formats)).merges) :
      ∃ s ∈ o.resolution.subtotals, s.column ∈ rules.mergeColumns ∧
        s.summed = .ok (m.first, m.last) := by
    rcases mem_merges_foldl_mergeGroup h with hold | hmerged
    · rw [merges_styled] at hold
      contradiction
    · exact hmerged
  change m ∈ (placeOrder rules o
    (o.resolution.subtotals.foldl (mergeGroup rules) (styled g o rules formats))).merges at h
  unfold placeOrder at h
  split at h
  · rename_i cell name hfind
    rcases mem_merges_orderBlock h with hold | hblock
    · exact .inl (hsubtotals hold)
    · exact .inr ⟨_, hfind, hblock⟩
  · exact .inl (hsubtotals h)

end StylePlan

/-- Whether a subtotal sums a cell that is not the first of its range. -/
def Subtotal.SumsBelowFirst (s : Subtotal) (c : Cell) : Prop :=
  c.col = s.cell.col ∧ s.cell.row < c.row + s.size ∧ c.row < s.cell.row

/-- Whether the placeholder of the order was filled above a cell, in its column. -/
def Outcome.HasOrderAbove (o : Outcome) (rules : StyleRules) (c : Cell) : Prop :=
  ∃ filled, o.placeholders.find? (fun e => e.2 == rules.orderPlaceholder) = some filled ∧
    filled.1.col = c.col ∧ filled.1.row < c.row

instance (s : Subtotal) (c : Cell) : Decidable (s.SumsBelowFirst c) :=
  inferInstanceAs (Decidable (_ ∧ _ ∧ _))

/-- A cell in the range of a subtotal is the first one unless it is summed below the first. -/
theorem Subtotal.first_eq_of_contains {s : Subtotal} {m : Extent} {c : Cell}
    (hsummed : s.summed = .ok (m.first, m.last)) (hcontains : m.contains c = true)
    (hclear : ¬ s.SumsBelowFirst c) : m.first = c := by
  obtain ⟨first, hfirst, hrest⟩ := bind_eq_ok_iff.mp hsummed
  obtain ⟨last, hlast, heq⟩ := bind_eq_ok_iff.mp hrest
  obtain ⟨rfl, rfl⟩ := Prod.mk.inj (Except.ok.inj heq)
  obtain ⟨hfirstRow, hfirstCol⟩ := Cell.locate_eq_ok_iff.mp hfirst
  obtain ⟨hlastRow, hlastCol⟩ := Cell.locate_eq_ok_iff.mp hlast
  simp only [Extent.contains, Bool.and_eq_true, decide_eq_true_eq] at hcontains
  simp only [SumsBelowFirst, not_and, Nat.not_lt] at hclear
  have hrow : c.row + s.size ≤ s.cell.row := by
    refine Nat.not_lt.mp fun hbelow => ?_
    have hnot := hclear (by omega) hbelow
    omega
  refine Cell.ext ?_ ?_ <;> omega

namespace StylePlan

/-- The column of a block is that of its first cell. -/
theorem col_eq_of_blockDown_contains {order bottom c : Cell}
    (h : (blockDown order bottom).contains c = true) : c.col = order.col := by
  have hfirst : (blockDown order bottom).first.col = order.col := rfl
  have hlast : (blockDown order bottom).last.col = order.col := by
    unfold blockDown
    dsimp only
    split <;> rfl
  simp only [Extent.contains, Bool.and_eq_true, decide_eq_true_eq] at h
  omega

/-- A cell in the block of the order is the first one unless it lies below. -/
theorem first_eq_of_blockDown_contains {order bottom c : Cell}
    (hcontains : (blockDown order bottom).contains c = true)
    (hclear : ¬ (order.col = c.col ∧ order.row < c.row)) : (blockDown order bottom).first = c := by
  have hfirst : (blockDown order bottom).first = order := rfl
  have hcol := col_eq_of_blockDown_contains hcontains
  simp only [Extent.contains, Bool.and_eq_true, decide_eq_true_eq] at hcontains
  rw [hfirst] at hcontains ⊢
  refine Cell.ext ?_ ?_ <;> omega

end StylePlan

namespace Assembler

variable {a : Assembler} {template laid resolved final : Grid} {records : Records}
  {placeholders : Placeholders} {groups : List Group} {anchors : Anchors} {outcome : Outcome}
  {c : Cell} {col : Nat} {name : String} {rules : StyleRules}

/-- A subtotal inside of the report is one of its own rows, so its column is that of its place. -/
theorem Assembled.column_of_subtotal (h : Assembled a template records placeholders groups anchors
    laid resolved final outcome) (hrecords : records.Lacks Value.isAggregate) {s : Subtotal}
    (hs : s ∈ outcome.resolution.subtotals)
    (hcontains : outcome.extent.contains s.cell = true)
    (hname : records.columns[col]? = some name)
    (hcol : s.cell.col = outcome.extent.first.col + col) : s.column = name := by
  have hholds := (h.resolves.mem_subtotals.mp hs).1
  have hin : ¬ Layout.Elsewhere outcome.extent anchors records.columns s.cell := fun helsewhere =>
    Bool.eq_false_iff.mp helsewhere.1 hcontains
  rcases h.rendered.tag_or_lacks_of_not_elsewhere h.encodable
      (fun _ => Value.not_isAggregate_of_not_isMarkup)
      (Grouper.lacks_of_data_mem_plan h.build_eq hrecords) hin with
    ⟨row, index, name', col', tag, hrow, hname', hat, htag, -⟩ | hlacks
  · obtain rfl := hholds.unique (h.rendered.holdsTag_of_tag? h.encodable hrow hname' hat htag)
    obtain rfl : col' = col := by
      have hplace := hat.2
      omega
    obtain rfl := Option.some.inj (hname'.symm.trans hname)
    cases row <;> simp only [PlannedRow.tag?, reduceCtorEq, Option.some.injEq,
      Tag.subtotal.injEq] at htag
    exact htag.2.symm
  · obtain ⟨text, htext, hread⟩ := hholds
    simp [htext, Value.isAggregate, Tag.readsAsAggregate, hread, Tag.isAggregate] at hlacks

/-- In a column that is not to be merged, a cell of the report is the first one of every merged
range that contains it, unless it stands below the placeholder of the order or a subtotal from
outside of the report reaches it. -/
theorem Assembled.first_eq_of_mem_merges (h : Assembled a template records placeholders groups
    anchors laid resolved final outcome) (hrecords : records.Lacks Value.isAggregate)
    (hname : records.columns[col]? = some name)
    (hcol : c.col = outcome.extent.first.col + col) (hunmerged : name ∉ rules.mergeColumns)
    (horder : ¬ outcome.HasOrderAbove rules c)
    (hsubtotals : ∀ s ∈ outcome.resolution.subtotals, s.column ∈ rules.mergeColumns →
      outcome.extent.contains s.cell = false → ¬ s.SumsBelowFirst c)
    {formats : SheetFormats} {m : Extent}
    (hm : m ∈ (StylePlan.build final outcome rules formats).merges)
    (hcontains : m.contains c = true) : m.first = c := by
  rcases StylePlan.mem_merges_build hm with
    ⟨s, hs, hmerged, hsummed⟩ | ⟨filled, hfind, rfl⟩
  · refine Subtotal.first_eq_of_contains hsummed hcontains fun hbelow => ?_
    cases hinside : outcome.extent.contains s.cell with
    | true =>
      have hplace : s.cell.col = outcome.extent.first.col + col := hbelow.1.symm.trans hcol
      have hcolumn := h.column_of_subtotal hrecords hs hinside hname hplace
      exact hunmerged (hcolumn ▸ hmerged)
    | false => exact hsubtotals s hs hmerged hinside hbelow
  · refine StylePlan.first_eq_of_blockDown_contains hcontains fun hbelow => ?_
    exact horder ⟨filled, hfind, hbelow⟩

/-- In a column that is not to be merged, no merged range hides a cell of the report, and the
stored workbook shows its value, unless the cell stands below the placeholder of the order or a
subtotal from outside of the report reaches it. -/
theorem shows_values_of_unmerged_columns {a : Assembler} {template final : Grid}
    {records : Records} {placeholders : Placeholders} {outcome : Outcome}
    (hrun : a.run template records placeholders = .ok (final, outcome))
    (hrecords : records.Lacks Value.isMarkup) (rules : StyleRules) (formats : SheetFormats)
    {c : Cell} {col : Nat} {name : String} (hname : records.columns[col]? = some name)
    (hcol : c.col = outcome.extent.first.col + col) (hunmerged : name ∉ rules.mergeColumns)
    (horder : ¬ outcome.HasOrderAbove rules c)
    (hsubtotals : ∀ s ∈ outcome.resolution.subtotals, s.column ∈ rules.mergeColumns →
      outcome.extent.contains s.cell = false → ¬ s.SumsBelowFirst c) :
    (∀ m ∈ (StylePlan.build final outcome rules formats).merges, m.contains c = true →
      m.first = c) ∧
    ∀ title isPicture sheet,
      StoredSheet.ofReport? title final (StylePlan.build final outcome rules formats) isPicture =
        some sheet → sheet.contentAt c = (final.get c).content := by
  obtain ⟨groups, anchors, laid, resolved, h⟩ := run_eq_ok hrun
  have hlacks := hrecords.mono fun _ => Value.not_isAggregate_of_not_isMarkup
  have hfirst : ∀ m ∈ (StylePlan.build final outcome rules formats).merges,
      m.contains c = true → m.first = c := fun m hm =>
    h.first_eq_of_mem_merges hlacks hname hcol hunmerged horder hsubtotals hm
  exact ⟨hfirst, fun title isPicture sheet hsheet =>
    StoredSheet.contentAt_of_ofReport? hsheet hfirst⟩

end Assembler

namespace BlockReport

open SmallReport (cell)

/-- The cells above the subtotal of the template are merged, and those below the placeholder. -/
theorem merges_eq : (StylePlan.build final outcome {} {}).merges =
    [⟨cell 3 2, cell 5 2⟩, ⟨cell 0 1, cell 5 1⟩] := by
  decide

/-- The stored workbook shows neither the note nor the total of the clicks. -/
theorem exists_stored :
    ∃ sheet, StoredSheet.ofReport? "Report" final (StylePlan.build final outcome {} {})
        (fun _ => false) = some sheet ∧
      sheet.contentAt (cell 2 1) = .blank ∧ sheet.contentAt (cell 4 2) = .blank := by
  have hstored : (StoredSheet.ofReport? "Report" final (StylePlan.build final outcome {} {})
      fun _ => false).map (fun sheet => (sheet.contentAt (cell 2 1), sheet.contentAt (cell 4 2))) =
        some (.blank, .blank) := by
    decide
  obtain ⟨sheet, hsheet, hcontents⟩ := Option.map_eq_some_iff.mp hstored
  exact ⟨sheet, hsheet, Prod.mk.inj hcontents⟩

end BlockReport

namespace Assembler

/-- In the report with a block and a subtotal below, the line item is the first cell of every
range that contains it. -/
theorem blockReport_shows_line_item :
    SmallReport.assembler.run BlockReport.template BlockReport.records BlockReport.placeholders =
        .ok (BlockReport.final, BlockReport.outcome) ∧
      BlockReport.records.Lacks Value.isMarkup ∧
      "Line Item" ∉ ({} : StyleRules).mergeColumns ∧
      ¬ BlockReport.outcome.HasOrderAbove {} (SmallReport.cell 2 0) ∧
      (∀ s ∈ BlockReport.outcome.resolution.subtotals,
        ¬ s.SumsBelowFirst (SmallReport.cell 2 0)) ∧
      ∃ sheet,
        StoredSheet.ofReport? "Report" BlockReport.final
            (StylePlan.build BlockReport.final BlockReport.outcome {} {}) (fun _ => false) =
          some sheet ∧
        sheet.contentAt (SmallReport.cell 2 0) = (Value.text "ORD-1").content := by
  have hrecords : BlockReport.records.Lacks Value.isMarkup := by decide
  have hunmerged : "Line Item" ∉ ({} : StyleRules).mergeColumns := by decide
  have hfound : BlockReport.outcome.placeholders.find?
      (fun e => e.2 == ({} : StyleRules).orderPlaceholder) =
        some (SmallReport.cell 0 1, "order_id") := by
    decide
  have horder : ¬ BlockReport.outcome.HasOrderAbove {} (SmallReport.cell 2 0) := by
    intro hex
    obtain ⟨filled, hfind, hcol, -⟩ := hex
    obtain rfl := Option.some.inj (hfound.symm.trans hfind)
    contradiction
  have hsubtotals : ∀ s ∈ BlockReport.outcome.resolution.subtotals,
      ¬ s.SumsBelowFirst (SmallReport.cell 2 0) := by
    decide
  obtain ⟨sheet, hsheet, -⟩ := BlockReport.exists_stored
  have hvalue : BlockReport.final.get (SmallReport.cell 2 0) = .text "ORD-1" := by decide
  have hname : BlockReport.records.columns[0]? = some "Line Item" := rfl
  have hshown := (shows_values_of_unmerged_columns (c := SmallReport.cell 2 0) BlockReport.run_eq
    hrecords {} {} hname rfl hunmerged horder fun s hs _ _ => hsubtotals s hs).2 _ _ _ hsheet
  rw [hvalue] at hshown
  exact ⟨BlockReport.run_eq, hrecords, hunmerged, horder, hsubtotals, sheet, hsheet, hshown⟩

/-- In the same report, the note stands below the placeholder of the order and the total of the
clicks above the subtotal of the template, and the ranges that contain them begin elsewhere. -/
theorem blockReport_hides_note_and_total :
    SmallReport.assembler.run BlockReport.template BlockReport.records BlockReport.placeholders =
        .ok (BlockReport.final, BlockReport.outcome) ∧
      BlockReport.records.Lacks Value.isMarkup ∧
      (BlockReport.outcome.extent.contains (SmallReport.cell 2 1) = true ∧
        BlockReport.records.columns[1]? = some "Note" ∧
        "Note" ∉ ({} : StyleRules).mergeColumns ∧
        BlockReport.final.get (SmallReport.cell 2 1) = .text "plain" ∧
        ∃ m ∈ (StylePlan.build BlockReport.final BlockReport.outcome {} {}).merges,
          m.contains (SmallReport.cell 2 1) = true ∧ m.first ≠ SmallReport.cell 2 1) ∧
      (BlockReport.outcome.extent.contains (SmallReport.cell 4 2) = true ∧
        BlockReport.records.columns[2]? = some "Ad server clicks" ∧
        "Ad server clicks" ∉ ({} : StyleRules).mergeColumns ∧
        BlockReport.final.get (SmallReport.cell 4 2) = .formula "=C3" ∧
        ∃ m ∈ (StylePlan.build BlockReport.final BlockReport.outcome {} {}).merges,
          m.contains (SmallReport.cell 4 2) = true ∧ m.first ≠ SmallReport.cell 4 2) ∧
      ∃ sheet,
        StoredSheet.ofReport? "Report" BlockReport.final
            (StylePlan.build BlockReport.final BlockReport.outcome {} {}) (fun _ => false) =
          some sheet ∧
        sheet.contentAt (SmallReport.cell 2 1) = .blank ∧
        sheet.contentAt (SmallReport.cell 4 2) = .blank := by
  have hrecords : BlockReport.records.Lacks Value.isMarkup := by decide
  have hvalues : BlockReport.final.get (SmallReport.cell 2 1) = .text "plain" ∧
      BlockReport.final.get (SmallReport.cell 4 2) = .formula "=C3" := by
    decide
  rw [BlockReport.merges_eq]
  refine ⟨BlockReport.run_eq, hrecords, ⟨by decide, rfl, by decide, hvalues.1, ?_⟩,
    ⟨by decide, rfl, by decide, hvalues.2, ?_⟩, BlockReport.exists_stored⟩
  · exact ⟨_, List.mem_cons_of_mem _ List.mem_cons_self, by decide, by decide⟩
  · exact ⟨_, List.mem_cons_self, by decide, by decide⟩

end Assembler

end SheetReport
