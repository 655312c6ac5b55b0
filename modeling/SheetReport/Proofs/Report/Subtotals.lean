import SheetReport.Proofs.Report.Success

/-!
# Subtotals belong to their groups

The layout leaves only the size of a group in a subtotal tag, and resolving counts as many rows
upwards from the tag. Both agree: a subtotal row stands right below the last record of one larger
group, its sums cover the records of that group and no other row, and its ratios and labels stay
in their own row. The total row is filled in the same way.

Main statement: `subtotals_belong_to_their_groups`.
-/

namespace SheetReport

open Resolution

namespace Layout.Marked

variable {template g g' : Grid} {anchors : Anchors} {columns : List String}
  {groups : List Group} {extent : Extent} {kinds : ColumnKinds} {r : Resolution}

/-- The rows of the subtotals are those right below the larger groups, if there is a column. -/
theorem exists_subtotal_row_iff (h : Marked template anchors columns groups g extent)
    (hr : Resolved g extent kinds g' r) (hcolumns : columns ≠ []) {row : Nat} :
    (∃ s ∈ r.subtotals, s.cell.row = row) ↔
      ∃ b ∈ Group.placed groups, 1 < b.2.size ∧ row = extent.first.row + b.1 + b.2.size := by
  constructor
  · intro hex
    obtain ⟨s, hs, rfl⟩ := hex
    obtain ⟨⟨b, hb, hlarge, -, col, -, hat⟩, -⟩ := (h.mem_subtotals_iff hr).mp hs
    exact ⟨b, hb, hlarge, by rw [hat.1, Nat.add_assoc]⟩
  · intro hex
    obtain ⟨b, hb, hlarge, rfl⟩ := hex
    have hname := List.getElem?_eq_getElem (List.length_pos_iff.mpr hcolumns)
    obtain ⟨c, hat⟩ := h.exists_subtotal_cell hb hlarge hname
    exact ⟨_, h.mem_subtotals_of_isAt hr hb hlarge hname hat,
      by rw [hat.1, Nat.add_assoc]⟩

end Layout.Marked

namespace Assembler

/-- Each larger group, and no other, has a subtotal row right below its records, and the row
holds the sums of the group, its ratios and its labels; the total row holds its own likewise. -/
theorem subtotals_belong_to_their_groups {a : Assembler} {template final : Grid}
    {records : Records} {placeholders : Placeholders} {outcome : Outcome}
    (hrun : a.run template records placeholders = .ok (final, outcome))
    (htemplate : template.Lacks Value.isAggregate) (hrecords : records.Lacks Value.isMarkup)
    (hsubtotalLabel : Tag.isMarkup a.kinds.subtotalLabel = false)
    (htotalLabel : Tag.isMarkup a.kinds.totalLabel = false)
    (hnames : ∀ e ∈ placeholders.entries, Tag.isAnchorName e.1 = true) :
    ∃ groups, a.grouper.build records = .ok groups ∧
      (Group.placed groups).map Prod.snd = groups ∧
      (∀ b ∈ Group.placed groups, ∀ k m, b.2.members[k]? = some m →
        (PlannedRow.plan (groups.map Group.records))[b.1 + k]? = some (.data m.record)) ∧
      (Group.placed groups).Pairwise
        (fun b b' => b.1 + b.2.size + (if 1 < b.2.size then 2 else 0) ≤ b'.1) ∧
      (∀ row, (∃ s ∈ outcome.resolution.subtotals, s.cell.row = row) ↔
        ∃ b ∈ Group.placed groups,
          1 < b.2.size ∧ row = outcome.extent.first.row + b.1 + b.2.size) ∧
      (∀ b ∈ Group.placed groups, 1 < b.2.size →
        ∀ col name, records.columns[col]? = some name →
          ∃ c : Cell, c.IsAt outcome.extent.first (b.1 + b.2.size) col ∧
            (a.kinds.classify name = .count →
              ∃ range : Extent, final.ShowsSum c range ∧
                range.first.IsAt outcome.extent.first b.1 col ∧
                range.last.IsAt outcome.extent.first (b.1 + b.2.size - 1) col ∧
                ∀ c' : Cell, c' ∈ range.cells ↔
                  ∃ k < b.2.size, c'.IsAt outcome.extent.first (b.1 + k) col) ∧
            (a.kinds.classify name = .ratio → final.ShowsRatio c) ∧
            (a.kinds.classify name = .label → final.get c = .text a.kinds.subtotalLabel)) ∧
      (∀ col name, records.columns[col]? = some name →
        ∃ c : Cell, c.row + 1 = outcome.extent.last.row ∧
          c.col = outcome.extent.first.col + col ∧
            (a.kinds.classify name = .count →
              ∃ terms, List.Forall₂ (fun c' row => Cell.IsAt c' outcome.extent.first row col) terms
                  (Group.subtotalRows groups ++ Group.singleRows groups) ∧
                final.ShowsAddition c terms) ∧
            (a.kinds.classify name = .ratio → final.ShowsRatio c) ∧
            (a.kinds.classify name = .label → final.get c = .text a.kinds.totalLabel)) := by
  obtain ⟨groups, anchors, laid, resolved, h⟩ := run_eq_ok hrun
  have hm := h.marked htemplate (hrecords.mono fun _ => Value.not_isAggregate_of_not_isMarkup)
  have hr := h.resolves
  have hlabel {c : Cell} {label : String} (hmarkup : Tag.isMarkup label = false)
      (hget : resolved.get c = .text label) : final.get c = .text label := by
    rw [← hget]
    exact h.get_final_of_not_isMarkup hnames (by rw [hget]; exact hmarkup)
  refine ⟨groups, h.build_eq, Group.map_snd_placed groups, fun b hb k m hk => ?_,
    Group.pairwise_placed groups, fun row => ?_, fun b hb hlarge col name hname => ?_,
    fun col name hname => ?_⟩
  · exact Group.data_mem_plan_iff.mpr ⟨b, hb, k, m, hk, rfl, rfl⟩
  · exact hm.exists_subtotal_row_iff hr (columns_ne_nil_of_build h.build_eq)
  · obtain ⟨c, hat⟩ := hm.exists_subtotal_cell hb hlarge hname
    refine ⟨c, hat, fun hkind => ?_, fun hkind => ?_, fun hkind => ?_⟩
    · obtain ⟨range, hfirst, hlast, hsum⟩ := hm.get_subtotal_count hr hb hlarge hname hat hkind
      exact ⟨range, h.showsSum_final hsum, hfirst, hlast, fun c' =>
        Extent.mem_cells_iff_of_isAt (Nat.zero_lt_of_lt hlarge) hfirst hlast⟩
    · exact h.showsRatio_final (hm.get_subtotal_ratio hr hb hlarge hname hat hkind)
    · exact hlabel hsubtotalLabel (hm.get_subtotal_label hr hb hlarge hname hat hkind)
  · obtain ⟨c, hrow, hcol⟩ := hm.exists_total_cell hname
    refine ⟨c, hrow, hcol, fun hkind => ⟨_, ?_, h.showsAddition_final (hm.get_total_count hr
      h.members_ne_nil hname hrow hcol hkind)⟩, fun hkind => ?_, fun hkind => ?_⟩
    · exact hm.forall₂_terms h.members_ne_nil hname
    · exact h.showsRatio_final (hm.get_total_ratio hr hname hrow hcol hkind)
    · exact hlabel htotalLabel (hm.get_total_label hr hname hrow hcol hkind)

/-- In the small report, the subtotal row of the larger group holds a sum, a ratio and a label. -/
theorem smallReport_subtotals_belong_to_their_groups :
    SmallReport.template.Lacks Value.isAggregate ∧ SmallReport.records.Lacks Value.isMarkup ∧
      Tag.isMarkup SmallReport.assembler.kinds.subtotalLabel = false ∧
      Tag.isMarkup SmallReport.assembler.kinds.totalLabel = false ∧
      (∀ e ∈ SmallReport.placeholders.entries, Tag.isAnchorName e.1 = true) ∧
      ∃ final outcome,
        SmallReport.assembler.run SmallReport.template SmallReport.records
          SmallReport.placeholders = .ok (final, outcome) ∧
        final.get (SmallReport.cell 3 1) = .formula "=SUM(B2:B3)" ∧
        final.get (SmallReport.cell 3 3) = .formula "=C4/B4" ∧
        final.get (SmallReport.cell 3 4) = .text "Total" := by
  have htemplate : SmallReport.template.Lacks Value.isAggregate := by decide +kernel
  have hrecords : SmallReport.records.Lacks Value.isMarkup := by decide +kernel
  have hsubtotalLabel : Tag.isMarkup SmallReport.assembler.kinds.subtotalLabel = false := by
    decide +kernel
  have htotalLabel : Tag.isMarkup SmallReport.assembler.kinds.totalLabel = false := by
    decide +kernel
  have hnames : ∀ e ∈ SmallReport.placeholders.entries, Tag.isAnchorName e.1 = true := by
    decide +kernel
  obtain ⟨final, outcome, hrun, hfirst⟩ := SmallReport.exists_run_eq_ok
  refine ⟨htemplate, hrecords, hsubtotalLabel, htotalLabel, hnames, final, outcome, hrun, ?_⟩
  obtain ⟨groups, hgroups, -, -, -, -, hcells, -⟩ := subtotals_belong_to_their_groups hrun
    htemplate hrecords hsubtotalLabel htotalLabel hnames
  obtain rfl := Except.ok.inj (SmallReport.build_eq.symm.trans hgroups)
  rw [hfirst] at hcells
  have hcells := hcells (0, ⟨⟨"", "", .lineItem "ORD-1-1-1"⟩,
    [⟨0, ⟨[.text "ORD-1-1-1", .text "10"]⟩⟩, ⟨1, ⟨[.text "ORD-1-1-1"]⟩⟩]⟩)
    (by decide +kernel) (by decide)
  obtain ⟨c, hat, hcount, -, -⟩ := hcells 1 "Ad server impressions" rfl
  obtain ⟨c', hat', -, hratio, -⟩ := hcells 3 "Ad server CTR" rfl
  obtain ⟨c'', hat'', -, -, hlabel⟩ := hcells 4 "Delivery Indicator" rfl
  refine ⟨?_, ?_, ?_⟩
  · obtain ⟨range, hsum, hrangeFirst, hrangeLast, -⟩ := hcount (by decide +kernel)
    have hc : c = SmallReport.cell 3 1 := hat.unique ⟨rfl, rfl⟩
    have hrange : range.first = SmallReport.cell 1 1 ∧ range.last = SmallReport.cell 2 1 :=
      ⟨hrangeFirst.unique ⟨rfl, rfl⟩, hrangeLast.unique ⟨rfl, rfl⟩⟩
    rw [Grid.ShowsSum, hc, hrange.1, hrange.2] at hsum
    exact hsum.trans (by decide +kernel)
  · obtain ⟨numerator, denominator, hrow, hcol, hrow', hcol', hget⟩ :=
      hratio (by decide +kernel)
    obtain rfl : c' = SmallReport.cell 3 3 := hat'.unique ⟨rfl, rfl⟩
    have hnumerator : numerator = SmallReport.cell 3 2 :=
      Cell.ext hrow (Nat.succ.inj hcol)
    have hdenominator : denominator = SmallReport.cell 3 1 :=
      Cell.ext hrow' (Nat.succ.inj (Nat.succ.inj hcol'))
    rw [hnumerator, hdenominator] at hget
    exact hget.trans (by decide +kernel)
  · obtain rfl : c'' = SmallReport.cell 3 4 := hat''.unique ⟨rfl, rfl⟩
    exact (hlabel (by decide +kernel)).trans (by decide +kernel)

end Assembler

end SheetReport
