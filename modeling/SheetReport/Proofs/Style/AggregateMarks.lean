import SheetReport.Proofs.Report.AggregateRows
import SheetReport.Proofs.Report.Contents
import SheetReport.Proofs.Style.GroupMerges
import SheetReport.Proofs.Tag.Grammar

/-!
# Marks of the aggregate rows

The cells of aggregates come to the plan on two ways. Where a formula or a label was written, the
cell is bold as a written one; where the column has no kind, its tag is left to the end and the cell
is bold as a cleared one, and so are the cells of the closing row, which are filled too. The other
rows of a report hold no tags, so neither way leads to them. A label is a text like any other: if it
is the mark of the closing row, it is cleared and filled like that.

Main statement: `styles_mark_aggregate_rows`.
-/

namespace SheetReport

open Resolution

/-- Filling leaves a cell as it is, or puts a value in place of a placeholder's anchor. -/
theorem Markup.get_fill_cases {g : Grid} {placeholders : Placeholders}
    (hnames : ∀ e ∈ placeholders.entries, Tag.isAnchorName e.1 = true)
    (hvalues : ∀ e ∈ placeholders.entries, e.2.isMarkup = false) (c : Cell) :
    (fill g placeholders).1.get c = g.get c ∨
      ((fill g placeholders).1.get c).isMarkup = false := by
  have hne : ∀ e ∈ placeholders.entries, ∀ e' ∈ placeholders.entries,
      e.2 ≠ .text (Tag.anchor e'.1).text := fun e he e' he' =>
    Value.ne_anchor_of_not_isMarkup (hvalues e he) (hnames e' he')
  by_cases h : ∃ e ∈ placeholders.entries, e.1 ∉ Tag.structural ∧ g.IsFirstAnchor e.1 c
  · obtain ⟨e, he, hstructural, hfirst⟩ := h
    have hget : (fill g placeholders).1.get c = e.2 :=
      get_fillList_of_isFirstAnchor placeholders.nodup_names hne he hstructural hfirst
    rw [hget]
    exact .inr (hvalues e he)
  · refine .inl (get_fillList_of_not_isFirstAnchor placeholders.nodup_names ?_)
    exact fun e he hstructural hfirst => h ⟨e, he, hstructural, hfirst⟩

namespace Assembler.Assembled

variable {a : Assembler} {template laid resolved final : Grid} {records : Records}
  {placeholders : Placeholders} {groups : List Group} {anchors : Anchors} {outcome : Outcome}
  {c : Cell} {row : PlannedRow} {index col : Nat} {name : String} {tag : Tag}

/-- A cleared tag is what a cell printed after filling. -/
theorem mem_stripped_iff (h : Assembled a template records placeholders groups anchors laid
    resolved final outcome) {text : String} : (c, text) ∈ outcome.stripped ↔
      Tag.looksLikeTag ((Markup.fill resolved placeholders).1.get c).print = true ∧
        text = ((Markup.fill resolved placeholders).1.get c).print := by
  rw [h.stripped_eq]
  exact Markup.mem_remaining_iff

section

variable (hnames : ∀ e ∈ placeholders.entries, Tag.isPlainName e.1 = true)

include hnames

/-- The tag of a planned row that is left after resolving is cleared. -/
theorem mem_stripped_of_tag (h : Assembled a template records placeholders groups anchors laid
    resolved final outcome) (htag : row.tag? name = some tag)
    (hread : Tag.read tag.text = .ok (some tag)) (hget : resolved.get c = .text tag.text) :
    (c, tag.text) ∈ outcome.stripped := by
  have hfill : (Markup.fill resolved placeholders).1.get c = .text tag.text := by
    rw [← hget]
    refine Markup.get_fillList_of_ne fun e he heq => ?_
    rw [hget] at heq
    exact Tag.text_ne_of_isPlainName htag (hnames e he) (Value.text.inj heq)
  rw [h.mem_stripped_iff, hfill]
  exact ⟨(Tag.isSome_iff_looksLikeTag hread).mp rfl, rfl⟩

variable (hvalues : ∀ e ∈ placeholders.entries, e.2.isMarkup = false)

include hvalues

/-- Where no markup is left after resolving, nothing is cleared. -/
theorem notMem_stripped (h : Assembled a template records placeholders groups anchors laid
    resolved final outcome) (hmarkup : (resolved.get c).isMarkup = false) :
    c ∉ outcome.stripped.map Prod.fst := by
  intro hcleared
  obtain ⟨⟨c, text⟩, hmem, rfl⟩ := List.mem_map.mp hcleared
  have hlooks := (h.mem_stripped_iff.mp hmem).1
  have hnot : ((Markup.fill resolved placeholders).1.get c).isMarkup = false := by
    rcases Markup.get_fill_cases (fun e he => Tag.isAnchorName_of_isPlainName (hnames e he))
      hvalues c with hget | hnot
    · rwa [hget]
    · exact hnot
  rw [Value.not_looksLikeTag_print hnot] at hlooks
  contradiction

/-- A text is cleared as the mark of the closing row exactly when it is that mark. -/
theorem totalBar_mem_stripped_iff (h : Assembled a template records placeholders groups anchors
    laid resolved final outcome) {text : String} (hget : resolved.get c = .text text) :
    (c, (Tag.decorative Tag.totalBar).text) ∈ outcome.stripped ↔
      text = (Tag.decorative Tag.totalBar).text := by
  constructor
  · intro hmem
    obtain ⟨hlooks, hprint⟩ := h.mem_stripped_iff.mp hmem
    rcases Markup.get_fill_cases (fun e he => Tag.isAnchorName_of_isPlainName (hnames e he))
      hvalues c with hfill | hnot
    · rw [hfill, hget] at hprint
      exact hprint.symm
    · rw [Value.not_looksLikeTag_print hnot] at hlooks
      contradiction
  · intro heq
    have htag : PlannedRow.decorative.tag? "" = some (.decorative Tag.totalBar) := rfl
    exact h.mem_stripped_of_tag hnames htag Tag.read_text_totalBar (by rw [hget, heq])

/-- A row without tags has no marks. -/
theorem styleOf_marked_of_tag?_eq_none (h : Assembled a template records placeholders groups
    anchors laid resolved final outcome) (hrecords : records.Lacks Value.isMarkup)
    (hrow : (PlannedRow.plan (groups.map Group.records))[index]? = some row)
    (hname : records.columns[col]? = some name) (hat : c.IsAt outcome.extent.first index col)
    (htag : row.tag? name = none) (rules : StyleRules) (formats : SheetFormats) :
    (StylePlan.marked outcome rules formats).styleOf c = {} := by
  have hmarkup : (laid.get c).isMarkup = false := by
    rw [h.rendered.planned hrow hname hat]
    cases row with
    | data r =>
      have hr := Grouper.lacks_of_data_mem_plan h.build_eq hrecords r (List.mem_of_getElem? hrow)
      exact PlannedRow.lacks_cellValue_data (fun _ => id) hr col name
    | blank => rfl
    | subtotal size => contradiction
    | total => contradiction
    | decorative => contradiction
  have hresolved : (resolved.get c).isMarkup = false := by
    rw [h.resolves.get_of_not_isMarkup hmarkup]
    exact hmarkup
  exact StylePlan.styleOf_marked_of_notMem (h.resolves.notMem_writes hmarkup)
    (h.notMem_stripped hnames hvalues hresolved)

/-- The cells of the closing row are bold and filled. -/
theorem styleOf_marked_of_decorative (h : Assembled a template records placeholders groups anchors
    laid resolved final outcome)
    (hrow : (PlannedRow.plan (groups.map Group.records))[index]? = some .decorative)
    (hname : records.columns[col]? = some name) (hat : c.IsAt outcome.extent.first index col)
    (rules : StyleRules) (formats : SheetFormats) :
    (StylePlan.marked outcome rules formats).styleOf c =
      { bold := true, fill := some rules.totalBarFill } := by
  have htag : PlannedRow.decorative.tag? name = some (.decorative Tag.totalBar) := rfl
  have hget : resolved.get c = .text (Tag.decorative Tag.totalBar).text := by
    rw [h.resolves.get_of_not_aggregate, h.rendered.planned hrow hname hat]
    · rfl
    · intro tag hholds
      rw [hholds.unique (h.rendered.holdsTag_of_tag? h.encodable hrow hname hat htag)]
      rfl
  exact StylePlan.styleOf_marked_of_totalBar h.nodup_stripped
    ((h.totalBar_mem_stripped_iff hnames hvalues hget).mpr rfl)

omit hvalues in
/-- The tag of a column without a kind is cleared in the end. -/
theorem get_of_other (h : Assembled a template records placeholders groups anchors laid resolved
    final outcome) (hrow : (PlannedRow.plan (groups.map Group.records))[index]? = some row)
    (hname : records.columns[col]? = some name) (hat : c.IsAt outcome.extent.first index col)
    (htag : row.tag? name = some tag) (haggregate : tag.isAggregate = true)
    (hkind : a.kinds.classify name = .other) :
    resolved.get c = .text tag.text ∧ (c, tag.text) ∈ outcome.stripped := by
  have hholds := h.rendered.holdsTag_of_tag? h.encodable hrow hname hat htag
  have hread := h.rendered.read_text_tag h.encodable hrow hname htag
  have hget : resolved.get c = .text tag.text := by
    rw [h.resolves.get_of_notMem_writes, h.rendered.planned hrow hname hat,
      PlannedRow.cellValue_of_tag? htag]
    intro hwritten
    obtain ⟨⟨c, v⟩, hmem, rfl⟩ := List.mem_map.mp hwritten
    obtain ⟨⟨column, ⟨tag', hholds', hcolumn⟩, hother⟩, -⟩ := h.resolves.mem_writes_iff.mp hmem
    obtain rfl := hholds'.unique hholds
    rw [PlannedRow.column?_of_tag? htag haggregate] at hcolumn
    obtain rfl := Option.some.inj hcolumn
    exact hother hkind
  exact ⟨hget, h.mem_stripped_of_tag hnames htag hread hget⟩

omit hvalues in
/-- The cells of subtotal rows and of the total row are bold: they are written, or their tag is
cleared. -/
theorem bold_marked_of_isAggregate (h : Assembled a template records placeholders groups anchors
    laid resolved final outcome)
    (hrow : (PlannedRow.plan (groups.map Group.records))[index]? = some row)
    (hname : records.columns[col]? = some name) (hat : c.IsAt outcome.extent.first index col)
    (htag : row.tag? name = some tag) (haggregate : tag.isAggregate = true)
    (hcontains : outcome.extent.contains c = true) (rules : StyleRules) (formats : SheetFormats) :
    ((StylePlan.marked outcome rules formats).styleOf c).bold = true := by
  by_cases hkind : a.kinds.classify name = .other
  · have hread := h.rendered.read_text_tag h.encodable hrow hname htag
    obtain ⟨-, hcleared⟩ := h.get_of_other hnames hrow hname hat htag haggregate hkind
    exact StylePlan.bold_marked_of_isAggregate h.nodup_stripped hcleared hcontains hread haggregate
  · have hholds := h.rendered.holdsTag_of_tag? h.encodable hrow hname hat htag
    have hcolumn := PlannedRow.column?_of_tag? htag haggregate
    have hwritten := h.resolves.mem_writes_iff.mpr ⟨⟨name, ⟨tag, hholds, hcolumn⟩, hkind⟩, rfl⟩
    exact StylePlan.bold_marked_of_written h.nodup_stripped (List.mem_map_of_mem hwritten)

/-- In a subtotal row or the total row, a mark of the closing row is cleared exactly where the
label is that mark. -/
theorem totalBar_mem_stripped_iff_labelledAs (h : Assembled a template records placeholders groups
    anchors laid resolved final outcome)
    (hm : Layout.Marked template anchors records.columns groups laid outcome.extent)
    (hrow : (PlannedRow.plan (groups.map Group.records))[index]? = some row)
    (hname : records.columns[col]? = some name) (hat : c.IsAt outcome.extent.first index col)
    (htag : row.tag? name = some tag) (haggregate : tag.isAggregate = true) :
    (c, (Tag.decorative Tag.totalBar).text) ∈ outcome.stripped ↔
      Layout.LabelledAs a.kinds records.columns groups outcome.extent
        (Tag.decorative Tag.totalBar).text c := by
  have hformula (hkind : a.kinds.classify name = .count ∨ a.kinds.classify name = .ratio) :
      (c, (Tag.decorative Tag.totalBar).text) ∉ outcome.stripped := by
    intro hmem
    have hmarkup := hm.not_isMarkup_of_formula h.resolves h.members_ne_nil hrow hname hat htag
      haggregate hkind
    exact h.notMem_stripped hnames hvalues hmarkup (List.mem_map_of_mem hmem)
  rw [hm.labelledAs_iff hrow hname hat]
  cases hkind : a.kinds.classify name with
  | count => simpa using hformula (.inl hkind)
  | ratio => simpa using hformula (.inr hkind)
  | label =>
    obtain ⟨label, hlabel⟩ := PlannedRow.exists_label?_of_tag? a.kinds htag haggregate
    have hget := hm.get_of_label h.resolves hrow hname hat hlabel hkind
    rw [h.totalBar_mem_stripped_iff hnames hvalues hget, hlabel]
    simp
  | other =>
    obtain ⟨hget, -⟩ := h.get_of_other hnames hrow hname hat htag haggregate hkind
    rw [h.totalBar_mem_stripped_iff hnames hvalues hget]
    simp only [reduceCtorEq, false_and, iff_false]
    intro heq
    have hread := h.rendered.read_text_tag h.encodable hrow hname htag
    rw [heq, Tag.read_text_totalBar] at hread
    obtain rfl := Option.some.inj (Except.ok.inj hread)
    contradiction

/-- Marked are the subtotal rows, the total row and the closing row. Filled are the closing row
and labels that are its mark. -/
theorem marks_of_contains (h : Assembled a template records placeholders groups anchors laid
    resolved final outcome) (hrecords : records.Lacks Value.isMarkup)
    (hm : Layout.Marked template anchors records.columns groups laid outcome.extent)
    (hcontains : outcome.extent.contains c = true) (rules : StyleRules) (formats : SheetFormats) :
    (((StylePlan.marked outcome rules formats).styleOf c).bold = true ↔
      Layout.OnSubtotalRow groups outcome.extent c ∨ c.row + 1 = outcome.extent.last.row ∨
        c.row = outcome.extent.last.row) ∧
    ((c.row = outcome.extent.last.row ∨ Layout.LabelledAs a.kinds records.columns groups
        outcome.extent (Tag.decorative Tag.totalBar).text c) →
      ((StylePlan.marked outcome rules formats).styleOf c).fill = some rules.totalBarFill) ∧
    (¬ (c.row = outcome.extent.last.row ∨ Layout.LabelledAs a.kinds records.columns groups
        outcome.extent (Tag.decorative Tag.totalBar).text c) →
      ((StylePlan.marked outcome rules formats).styleOf c).fill = none) := by
  obtain ⟨row, index, name, col, hrow, hname, hat, -⟩ := h.rendered.exists_planned hcontains
  rw [Layout.Marked.onSubtotalRow_iff hrow hat, hm.row_eq_total_iff hrow hat,
    hm.row_eq_decorative_iff hrow hat]
  have hcleared {tag : Tag} (htag : row.tag? name = some tag) (haggregate : tag.isAggregate = true)
      (hlabelled : Layout.LabelledAs a.kinds records.columns groups outcome.extent
        (Tag.decorative Tag.totalBar).text c) :
      ((StylePlan.marked outcome rules formats).styleOf c).fill = some rules.totalBarFill := by
    rw [StylePlan.styleOf_marked_of_totalBar h.nodup_stripped
      ((h.totalBar_mem_stripped_iff_labelledAs hnames hvalues hm hrow hname hat htag
        haggregate).mpr hlabelled)]
  have hplain {tag : Tag} (htag : row.tag? name = some tag) (haggregate : tag.isAggregate = true)
      (hlabelled : ¬ Layout.LabelledAs a.kinds records.columns groups outcome.extent
        (Tag.decorative Tag.totalBar).text c) :
      ((StylePlan.marked outcome rules formats).styleOf c).fill = none := by
    refine StylePlan.fill_marked h.nodup_stripped fun hmem => hlabelled ?_
    exact (h.totalBar_mem_stripped_iff_labelledAs hnames hvalues hm hrow hname hat htag
      haggregate).mp hmem
  have hbold {tag : Tag} (htag : row.tag? name = some tag) (haggregate : tag.isAggregate = true) :=
    h.bold_marked_of_isAggregate hnames hrow hname hat htag haggregate hcontains rules formats
  have hnone (htag : row.tag? name = none) :=
    h.styleOf_marked_of_tag?_eq_none hnames hvalues hrecords hrow hname hat htag rules formats
  have hunlabelled (hlabel : row.label? a.kinds = none) :
      ¬ Layout.LabelledAs a.kinds records.columns groups outcome.extent
        (Tag.decorative Tag.totalBar).text c := by
    rw [hm.labelledAs_iff hrow hname hat, hlabel]
    simp
  cases row with
  | data r =>
    rw [hnone rfl]
    simp [hunlabelled rfl]
  | blank =>
    rw [hnone rfl]
    simp [hunlabelled rfl]
  | subtotal size =>
    refine ⟨iff_of_true (hbold rfl rfl) (.inl ⟨size, rfl⟩), ?_, ?_⟩
    · simpa using hcleared rfl rfl
    · simpa using hplain rfl rfl
  | total =>
    refine ⟨iff_of_true (hbold rfl rfl) (.inr (.inl rfl)), ?_, ?_⟩
    · simpa using hcleared rfl rfl
    · simpa using hplain rfl rfl
  | decorative =>
    rw [h.styleOf_marked_of_decorative hnames hvalues hrow hname hat]
    simp

end

end Assembler.Assembled

namespace SmallReport

/-- The assembler with the mark of the closing row for the label of subtotals. -/
def barAssembler : Assembler := { assembler with kinds := { subtotalLabel := "<total_bar>" } }

/-- The small report is assembled with this label, too. -/
theorem exists_run_barAssembler : ∃ final outcome,
    barAssembler.run template records placeholders = .ok (final, outcome) := by
  have hratios : Layout.RatiosFit barAssembler.kinds records.columns anchors.dataStart := by
    have hdefault := ratiosFit
    rw [kinds_eq] at hdefault
    exact hdefault
  obtain ⟨⟨final, outcome⟩, hrun⟩ := Assembler.exists_run_eq_ok (a := barAssembler) placeholders
    anchors_eq build_eq encodes fits hratios (by decide) (by decide)
  exact ⟨final, outcome, hrun⟩

end SmallReport

namespace Assembler

/-- In a report, bold are the cells of the subtotal rows, of the total row and of the closing row,
in every column. Filled are the cells of the closing row, and besides them only labels that are the
text of its mark. Cells with a date have the date format, and unless the block of the order, which
its rotated cell tells, stands in a column of the report, each cell has the borders of the edges that
it lies on. -/
theorem styles_mark_aggregate_rows {a : Assembler} {template final : Grid} {records : Records}
    {placeholders : Placeholders} {outcome : Outcome}
    (hrun : a.run template records placeholders = .ok (final, outcome))
    (htemplate : template.Lacks Value.isAggregate) (hrecords : records.Lacks Value.isMarkup)
    (hnames : ∀ e ∈ placeholders.entries, Tag.isPlainName e.1 = true)
    (hvalues : ∀ e ∈ placeholders.entries, e.2.isMarkup = false)
    (rules : StyleRules) (formats : SheetFormats) :
    ∃ groups, a.grouper.build records = .ok groups ∧
      ∀ c style, outcome.extent.contains c = true →
        style = (StylePlan.build final outcome rules formats).styleOf c →
        (style.bold = true ↔ Layout.OnSubtotalRow groups outcome.extent c ∨
          c.row + 1 = outcome.extent.last.row ∨ c.row = outcome.extent.last.row) ∧
        (c.row = outcome.extent.last.row ∨ Layout.LabelledAs a.kinds records.columns groups
            outcome.extent "<total_bar>" c →
          style.fill = some rules.totalBarFill) ∧
        (¬ (c.row = outcome.extent.last.row ∨ Layout.LabelledAs a.kinds records.columns groups
            outcome.extent "<total_bar>" c) →
          style.fill = none) ∧
        style.date = (final.get c).isDate ∧
        ((∀ d, ((StylePlan.build final outcome rules formats).styleOf d).vertical = true →
            d.col < outcome.extent.first.col ∨ outcome.extent.last.col < d.col) →
          (style.border.top = true ↔ c.row = outcome.extent.first.row) ∧
          (style.border.bottom = true ↔ c.row = outcome.extent.last.row) ∧
          (style.border.left = true ↔ c.col = outcome.extent.first.col) ∧
          (style.border.right = true ↔ c.col = outcome.extent.last.col)) := by
  obtain ⟨groups, anchors, laid, resolved, h⟩ := run_eq_ok hrun
  have hm := h.marked htemplate (hrecords.mono fun _ => Value.not_isAggregate_of_not_isMarkup)
  refine ⟨groups, h.build_eq, fun c style hcontains hstyle => ?_⟩
  obtain ⟨hbold, hfill, hplain⟩ :=
    h.marks_of_contains hnames hvalues hrecords hm hcontains rules formats
  have hbar : (Tag.decorative Tag.totalBar).text = "<total_bar>" := rfl
  rw [hbar] at hfill hplain
  obtain ⟨border, vertical, hbuild⟩ :=
    StylePlan.exists_styleOf_build final rules formats h.nodup_stripped c
  have hborder (hcolumn : ∀ d,
      ((StylePlan.build final outcome rules formats).styleOf d).vertical = true →
        d.col ≠ c.col) := StylePlan.border_build final rules formats h.nodup_stripped hcolumn
  rw [← hstyle] at hbuild hborder
  refine ⟨by rw [hbuild]; exact hbold, fun hrow => by rw [hbuild]; exact hfill hrow,
    fun hrow => by rw [hbuild]; exact hplain hrow, by rw [hbuild, hcontains]; rfl,
    fun hclear => ?_⟩
  have hcolumn : ∀ d, ((StylePlan.build final outcome rules formats).styleOf d).vertical = true →
      d.col ≠ c.col := by
    intro d hd heq
    have hside := hclear d hd
    simp only [Extent.contains, Bool.and_eq_true, decide_eq_true_eq] at hcontains
    omega
  rw [hborder hcolumn, if_pos hcontains]
  simp [StylePlan.edgesIn]

/-- The small report has bold subtotals, and only its closing row is filled. -/
theorem smallReport_styles_mark_aggregate_rows :
    SmallReport.template.Lacks Value.isAggregate ∧ SmallReport.records.Lacks Value.isMarkup ∧
      (∀ e ∈ SmallReport.placeholders.entries, Tag.isPlainName e.1 = true) ∧
      (∀ e ∈ SmallReport.placeholders.entries, e.2.isMarkup = false) ∧
      ∃ final outcome,
        SmallReport.assembler.run SmallReport.template SmallReport.records
          SmallReport.placeholders = .ok (final, outcome) ∧
        ((StylePlan.build final outcome {} {}).styleOf (SmallReport.cell 3 4)).bold = true ∧
        ((StylePlan.build final outcome {} {}).styleOf (SmallReport.cell 3 4)).fill = none ∧
        ((StylePlan.build final outcome {} {}).styleOf (SmallReport.cell 8 4)).fill =
          some 0xf2f2f2 := by
  have htemplate : SmallReport.template.Lacks Value.isAggregate := by decide +kernel
  have hrecords : SmallReport.records.Lacks Value.isMarkup := by decide +kernel
  have hnames : ∀ e ∈ SmallReport.placeholders.entries, Tag.isPlainName e.1 = true := by
    decide +kernel
  have hvalues : ∀ e ∈ SmallReport.placeholders.entries, e.2.isMarkup = false := by
    decide +kernel
  obtain ⟨final, outcome, hrun, -⟩ := SmallReport.exists_run_eq_ok
  refine ⟨htemplate, hrecords, hnames, hvalues, final, outcome, hrun, ?_⟩
  obtain ⟨groups, hgroups, hstyles⟩ :=
    styles_mark_aggregate_rows hrun htemplate hrecords hnames hvalues {} {}
  obtain rfl := Except.ok.inj (SmallReport.build_eq.symm.trans hgroups)
  rw [SmallReport.extent_eq rfl hrun] at hstyles
  obtain ⟨hbold, -, hplain, -⟩ := hstyles (SmallReport.cell 3 4) _ (by decide) rfl
  obtain ⟨-, hfill, -⟩ := hstyles (SmallReport.cell 8 4) _ (by decide) rfl
  refine ⟨hbold.mpr (.inl SmallReport.onSubtotalRow), hplain ?_, hfill (.inl rfl)⟩
  rw [SmallReport.kinds_eq]
  intro hlabelled
  rcases hlabelled with hrow | ⟨col, name, -, -, -, ⟨-, hlabel⟩ | ⟨hrow, -⟩⟩
  · exact absurd hrow (by decide)
  · exact absurd hlabel (by decide)
  · exact absurd hrow (by decide)

/-- With the mark of the closing row for the label of subtotals, the label of the small report is
filled, far above the closing row. -/
theorem smallReport_label_is_filled :
    SmallReport.template.Lacks Value.isAggregate ∧ SmallReport.records.Lacks Value.isMarkup ∧
      (∀ e ∈ SmallReport.placeholders.entries, Tag.isPlainName e.1 = true) ∧
      (∀ e ∈ SmallReport.placeholders.entries, e.2.isMarkup = false) ∧
      ∃ final outcome,
        SmallReport.barAssembler.run SmallReport.template SmallReport.records
          SmallReport.placeholders = .ok (final, outcome) ∧
        outcome.extent.contains (SmallReport.cell 3 4) = true ∧
        (SmallReport.cell 3 4).row ≠ outcome.extent.last.row ∧
        ((StylePlan.build final outcome {} {}).styleOf (SmallReport.cell 3 4)).fill =
          some 0xf2f2f2 := by
  have htemplate : SmallReport.template.Lacks Value.isAggregate := by decide +kernel
  have hrecords : SmallReport.records.Lacks Value.isMarkup := by decide +kernel
  have hnames : ∀ e ∈ SmallReport.placeholders.entries, Tag.isPlainName e.1 = true := by
    decide +kernel
  have hvalues : ∀ e ∈ SmallReport.placeholders.entries, e.2.isMarkup = false := by
    decide +kernel
  obtain ⟨final, outcome, hrun⟩ := SmallReport.exists_run_barAssembler
  have hgrouper : SmallReport.barAssembler.grouper = SmallReport.assembler.grouper := rfl
  have hextent := SmallReport.extent_eq hgrouper hrun
  have hcontains : outcome.extent.contains (SmallReport.cell 3 4) = true := by
    rw [hextent]
    decide
  have hlabelled : Layout.LabelledAs SmallReport.barAssembler.kinds SmallReport.records.columns
      SmallReport.groups outcome.extent "<total_bar>" (SmallReport.cell 3 4) := by
    rw [hextent]
    exact ⟨4, "Delivery Indicator", rfl, rfl, by decide, .inl ⟨SmallReport.onSubtotalRow, rfl⟩⟩
  refine ⟨htemplate, hrecords, hnames, hvalues, final, outcome, hrun, hcontains, ?_, ?_⟩
  · rw [hextent]
    decide
  · obtain ⟨groups, anchors, laid, resolved, h⟩ := run_eq_ok hrun
    obtain rfl := Except.ok.inj (SmallReport.build_eq.symm.trans h.build_eq)
    have hm := h.marked htemplate (hrecords.mono fun _ => Value.not_isAggregate_of_not_isMarkup)
    obtain ⟨-, hfill, -⟩ := h.marks_of_contains hnames hvalues hrecords hm hcontains {} {}
    obtain ⟨border, vertical, hbuild⟩ :=
      StylePlan.exists_styleOf_build final {} {} h.nodup_stripped (SmallReport.cell 3 4)
    rw [hbuild]
    exact hfill (.inr hlabelled)

end Assembler

end SheetReport
