import SheetReport.Proofs.Report.AggregateCells
import SheetReport.Proofs.Report.Filling
import SheetReport.Report.Assembly

/-!
# The stages of an assembly

A run that succeeds has grouped the records, laid the groups out, resolved the aggregates, filled
the placeholders and cleared what is left of the tags. The last two stages only touch cells that
hold a tag, so what is no markup after resolving is in the final grid.

Main statements: `run_eq_ok` and `Assembled.get_final`.
-/

namespace SheetReport

namespace Value

/-- A formula that begins with an equals sign is no markup. -/
theorem not_isMarkup_formula {s : String} (h : s.toList.head? = some '=') :
    (formula s).isMarkup = false := by
  have hhead : s.toList.head? ≠ some '<' := by simp [h]
  exact Tag.not_isMarkup_of_head hhead

end Value

/-- The names of placeholders are distinct. -/
theorem Placeholders.nodup_names (placeholders : Placeholders) :
    (placeholders.entries.map Prod.fst).Nodup := by
  rw [List.Nodup, List.pairwise_map]
  refine placeholders.sorted.imp fun {a b} hlt heq => ?_
  have hself : compare b.1 b.1 = .eq := Std.ReflCmp.compare_self
  rw [heq, hself] at hlt
  contradiction

/-- Groups hold records of the input, so what no record has, no data row has. -/
theorem Grouper.lacks_of_data_mem_plan {g : Grouper} {records : Records} {groups : List Group}
    (h : g.build records = .ok groups) {test : Value → Bool} (hrecords : records.Lacks test)
    (r : Record) (hr : .data r ∈ PlannedRow.plan (groups.map Group.records)) : r.Lacks test := by
  obtain ⟨hperm, -⟩ := build_eq_ok h
  obtain ⟨i, hi⟩ := List.mem_iff_getElem?.mp hr
  obtain ⟨b, hb, k, m, hm, rfl, -⟩ := Group.data_mem_plan_iff.mp hi
  have hmem : m ∈ groups.flatMap Group.members :=
    List.mem_flatMap.mpr ⟨b.2, Group.mem_of_mem_placed hb, List.mem_of_getElem? hm⟩
  exact hrecords _ (List.mem_of_getElem? (mem_members_iff.mp (hperm.mem_iff.mp hmem)))

namespace Assembler

/-- The stages of a run that succeeds: `laid` is the template with the groups laid out, and
`resolved` the same with its aggregates resolved. -/
structure Assembled (a : Assembler) (template : Grid) (records : Records)
    (placeholders : Placeholders) (groups : List Group) (anchors : Anchors)
    (laid resolved final : Grid) (outcome : Outcome) : Prop where
  anchors_eq : template.anchors = .ok anchors
  build_eq : a.grouper.build records = .ok groups
  encodable : ∀ name ∈ records.columns, Tag.isEncodable name = true
  rendered : Layout.Rendered template anchors records.columns
    (PlannedRow.plan (groups.map Group.records)) laid outcome.extent
  resolves : Resolution.Resolved laid outcome.extent a.kinds resolved outcome.resolution
  final_eq : final = (Markup.strip (Markup.fill resolved placeholders).1).1
  placeholders_eq : outcome.placeholders = (Markup.fill resolved placeholders).2
  stripped_eq : outcome.stripped = Markup.remaining (Markup.fill resolved placeholders).1

variable {a : Assembler} {template laid resolved final : Grid} {records : Records}
  {placeholders : Placeholders} {groups : List Group} {anchors : Anchors} {outcome : Outcome}

/-- A grouping that succeeds has found the line item column. -/
theorem columns_ne_nil_of_build (h : a.grouper.build records = .ok groups) :
    records.columns ≠ [] := by
  obtain ⟨lineItem, hrequire, -⟩ := bind_eq_ok_iff.mp h
  exact List.ne_nil_of_mem (Records.exists_require_eq_ok_iff.mp ⟨lineItem, hrequire⟩)

/-- A run that succeeds has gone through all its stages. -/
theorem run_eq_ok (h : a.run template records placeholders = .ok (final, outcome)) :
    ∃ groups anchors laid resolved,
      Assembled a template records placeholders groups anchors laid resolved final outcome := by
  unfold run at h
  obtain ⟨anchors, hanchors, h⟩ := bind_eq_ok_iff.mp h
  obtain ⟨groups, hgroups, h⟩ := bind_eq_ok_iff.mp h
  obtain ⟨⟨resolved, extent, resolution⟩, hcompose, h⟩ := bind_eq_ok_iff.mp h
  obtain ⟨rfl, rfl⟩ := Prod.mk.inj (Except.ok.inj h)
  unfold compose at hcompose
  split at hcompose
  · contradiction
  · rename_i laid extent' hrender
    obtain ⟨⟨resolved', resolution'⟩, hresolve, heq⟩ := map_eq_ok_iff.mp hcompose
    obtain ⟨rfl, rfl, rfl⟩ :
        resolved' = resolved ∧ extent' = extent ∧ resolution' = resolution := by
      simpa using heq
    obtain ⟨anchors', hanchors', hencodable, hrendered⟩ :=
      Layout.render_eq_ok (columns_ne_nil_of_build hgroups) hrender
    obtain rfl := Except.ok.inj (hanchors.symm.trans hanchors')
    exact ⟨groups, anchors, laid, resolved', hanchors, hgroups, hencodable, hrendered,
      Resolution.resolve_eq_ok hresolve, rfl, rfl, rfl⟩

namespace Assembled

/-- No group is empty. -/
theorem members_ne_nil (h : Assembled a template records placeholders groups anchors laid resolved
    final outcome) : ∀ b ∈ groups, b.members ≠ [] := (Grouper.build_eq_ok h.build_eq).2

/-- If template and records hold no aggregates, the aggregates are those of the groups. -/
theorem marked (h : Assembled a template records placeholders groups anchors laid resolved
    final outcome) (htemplate : template.Lacks Value.isAggregate)
    (hrecords : records.Lacks Value.isAggregate) :
    Layout.Marked template anchors records.columns groups laid outcome.extent :=
  h.rendered.marked h.encodable htemplate (Grouper.lacks_of_data_mem_plan h.build_eq hrecords)

/-- What is no markup after resolving, and no placeholder's anchor, is in the final grid. -/
theorem get_final (h : Assembled a template records placeholders groups anchors laid resolved
    final outcome) {c : Cell} (hmarkup : (resolved.get c).isMarkup = false)
    (hanchor : ∀ e ∈ placeholders.entries, resolved.get c ≠ .text (Tag.anchor e.1).text) :
    final.get c = resolved.get c := by
  have hfill : (Markup.fill resolved placeholders).1.get c = resolved.get c :=
    Markup.get_fillList_of_ne hanchor
  rw [h.final_eq, Markup.get_strip, hfill, Value.not_looksLikeTag_print hmarkup]
  rfl

/-- A formula that resolving wrote is in the final grid. -/
theorem get_final_of_formula (h : Assembled a template records placeholders groups anchors laid
    resolved final outcome) {c : Cell} {s : String} (hformula : resolved.get c = .formula s)
    (hs : s.toList.head? = some '=') : final.get c = .formula s := by
  rw [← hformula]
  refine h.get_final ?_ fun e _ => ?_
  · rw [hformula]
    exact Value.not_isMarkup_formula hs
  · simp [hformula]

/-- The sums of the resolved grid are in the final grid. -/
theorem showsSum_final (h : Assembled a template records placeholders groups anchors laid
    resolved final outcome) {c : Cell} {range : Extent} (hsum : resolved.ShowsSum c range) :
    final.ShowsSum c range :=
  h.get_final_of_formula hsum (by simp)

/-- The ratios of the resolved grid are in the final grid. -/
theorem showsRatio_final (h : Assembled a template records placeholders groups anchors laid
    resolved final outcome) {c : Cell} (hratio : resolved.ShowsRatio c) : final.ShowsRatio c := by
  obtain ⟨numerator, denominator, hrow, hcol, hrow', hcol', hget⟩ := hratio
  exact ⟨numerator, denominator, hrow, hcol, hrow', hcol', h.get_final_of_formula hget (by simp)⟩

/-- What totals add in the resolved grid they add in the final grid. -/
theorem showsAddition_final (h : Assembled a template records placeholders groups anchors laid
    resolved final outcome) {c : Cell} {terms : List Cell}
    (hadds : resolved.ShowsAddition c terms) : final.ShowsAddition c terms where
  zero hnil := h.get_final_of_formula (hadds.zero hnil) rfl
  sum hne := h.get_final_of_formula (hadds.sum hne) (by simp)

/-- If placeholders have the names of anchors, what is no markup after resolving is in the final
grid. -/
theorem get_final_of_not_isMarkup (h : Assembled a template records placeholders groups anchors
    laid resolved final outcome)
    (hnames : ∀ e ∈ placeholders.entries, Tag.isAnchorName e.1 = true) {c : Cell}
    (hmarkup : (resolved.get c).isMarkup = false) : final.get c = resolved.get c := by
  exact h.get_final hmarkup fun e he => Value.ne_anchor_of_not_isMarkup hmarkup (hnames e he)

end Assembled

end Assembler

end SheetReport
