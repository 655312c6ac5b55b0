import SheetReport.Proofs.Report.Success

/-!
# The report is the template plus the records

After all stages, the data rows hold the records of the groups, blank rows and the closing row
are empty, headers outside of the report's rows hold the column names, and every other cell
outside is as in the template: a placeholder's first anchor takes its value, and whatever else
looks like a tag is cleared.

No row of the report shows the anchor of a placeholder, since the texts that stand there begin
differently or are no markup. So the first anchor on the sheet is the first one of the template
that was not written over.

Main statement: `report_is_template_plus_records`.
-/

namespace SheetReport

open Resolution

/-- Whether a name begins neither like a subtotal nor like a total. -/
def Tag.isPlainName (name : String) : Bool :=
  isAnchorName name && !subtotalMark.isPrefixOf name.toList && !totalMark.isPrefixOf name.toList

namespace Tag

/-- A plain name is the name of an anchor. -/
theorem isAnchorName_of_isPlainName {name : String} (h : isPlainName name = true) :
    isAnchorName name = true := by
  simp only [isPlainName, Bool.and_eq_true] at h
  exact h.1.1

/-- The tag of a planned row is not the anchor of a plain name. -/
theorem text_ne_of_isPlainName {row : PlannedRow} {column name : String} {tag : Tag}
    (htag : row.tag? column = some tag) (hname : isPlainName name = true) :
    tag.text ≠ (anchor name).text := by
  intro heq
  have hinner : tag.innerChars = name.toList := innerChars_eq_of_text_eq heq
  simp only [isPlainName, Bool.and_eq_true, Bool.not_eq_true'] at hname
  obtain ⟨⟨-, hsubtotal⟩, htotal⟩ := hname
  rw [← hinner] at hsubtotal htotal
  have hnot {mark rest : List Char} (h : mark.isPrefixOf (mark ++ rest) = false) : False := by
    rw [List.isPrefixOf_iff_prefix.mpr (List.prefix_append mark rest)] at h
    contradiction
  cases row <;> simp only [PlannedRow.tag?, reduceCtorEq, Option.some.injEq] at htag
  · subst htag
    rw [innerChars, List.append_assoc] at hsubtotal
    exact hnot hsubtotal
  · subst htag
    exact hnot htotal
  · subst htag
    rw [innerChars, totalBar_eq] at htotal
    exact hnot htotal

end Tag

namespace Resolution.Resolved

variable {g g' : Grid} {extent : Extent} {kinds : ColumnKinds} {r : Resolution}

/-- A cell without markup stays as it is. -/
theorem get_of_not_isMarkup (h : Resolved g extent kinds g' r) {c : Cell}
    (hmarkup : (g.get c).isMarkup = false) : g'.get c = g.get c := by
  refine h.get_of_not_aggregate fun tag hholds => ?_
  obtain ⟨text, htext, hread⟩ := hholds
  rw [htext] at hmarkup
  have hnone := Tag.isMarkup_eq_false_iff.mp hmarkup
  rw [hread] at hnone
  simp at hnone

end Resolution.Resolved

/-- Whether a cell is the first that holds the anchor of a name in the template and is not
written over by the rows and headers of a report. -/
def Layout.IsOpenAnchor (template : Grid) (extent : Extent) (anchors : Anchors)
    (columns : List String) (name : String) (c : Cell) : Prop :=
  Elsewhere extent anchors columns c ∧ template.get c = .text (Tag.anchor name).text ∧
    ∀ c', Elsewhere extent anchors columns c' →
      template.get c' = .text (Tag.anchor name).text → c.index ≤ c'.index

namespace Layout.Marked

variable {template g g' : Grid} {anchors : Anchors} {columns : List String}
  {groups : List Group} {extent : Extent} {kinds : ColumnKinds} {r : Resolution} {c : Cell}

/-- Aggregates stand in the rows of the report. -/
theorem contains_of_holdsTag (h : Marked template anchors columns groups g extent) {tag : Tag}
    (hholds : g.HoldsTag c tag) (haggregate : tag.isAggregate = true) :
    extent.contains c = true := by
  have hrows := h.last_row
  have hcolumns := h.last_col
  rw [← h.first] at hrows hcolumns
  cases tag with
  | subtotal size name =>
    obtain ⟨b, hb, hlarge, -, col, hname, hat⟩ := h.subtotal_iff.mp hholds
    obtain ⟨hindex, -⟩ := List.getElem?_eq_some_iff.mp
      (Group.subtotal_mem_plan_iff.mpr ⟨b, hb, hlarge, rfl, rfl⟩)
    obtain ⟨hwidth, -⟩ := List.getElem?_eq_some_iff.mp hname
    exact h.contains_iff.mpr ⟨_, hindex, col, hwidth, hat⟩
  | total name =>
    obtain ⟨col, hname, hrow, hcol⟩ := h.total_iff.mp hholds
    obtain ⟨hwidth, -⟩ := List.getElem?_eq_some_iff.mp hname
    have hlength := PlannedRow.two_le_length_plan (groups.map Group.records)
    simp only [Extent.contains, Bool.and_eq_true, decide_eq_true_eq]
    omega
  | _ => contradiction

/-- Elsewhere, a resolved report is as the template. -/
theorem get_of_elsewhere (h : Marked template anchors columns groups g extent)
    (hr : Resolved g extent kinds g' r) (hc : Elsewhere extent anchors columns c) :
    g'.get c = template.get c := by
  rw [← h.outside hc]
  refine hr.get_of_not_aggregate fun tag hholds => ?_
  rw [Bool.eq_false_iff]
  intro haggregate
  exact Bool.eq_false_iff.mp hc.1 (h.contains_of_holdsTag hholds haggregate)

/-- The rows and headers of a resolved report show no anchor of a plain name. -/
theorem get_ne_anchor (h : Marked template anchors columns groups g extent)
    (hr : Resolved g extent kinds g' r)
    (hencodable : ∀ name ∈ columns, Tag.isEncodable name = true)
    (hrecords : ∀ r, .data r ∈ PlannedRow.plan (groups.map Group.records) →
      r.Lacks Value.isMarkup)
    (hsubtotalLabel : Tag.isMarkup kinds.subtotalLabel = false)
    (htotalLabel : Tag.isMarkup kinds.totalLabel = false) {name : String}
    (hname : Tag.isPlainName name = true) (hc : ¬ Elsewhere extent anchors columns c) :
    g'.get c ≠ .text (Tag.anchor name).text := by
  have hanchor := Tag.isAnchorName_of_isPlainName hname
  rcases hr.get_cases c with hkeep | ⟨s, hformula⟩ | hget | hget
  · rw [hkeep]
    rcases h.tag_or_lacks_of_not_elsewhere hencodable (fun _ => id) hrecords hc with
      ⟨row, index, column, col, tag, -, -, -, htag, hget⟩ | hmarkup
    · rw [hget]
      exact fun heq => Tag.text_ne_of_isPlainName htag hname (Value.text.inj heq)
    · exact Value.ne_anchor_of_not_isMarkup hmarkup hanchor
  · simp [hformula]
  · rw [hget]
    exact Value.ne_anchor_of_not_isMarkup hsubtotalLabel hanchor
  · rw [hget]
    exact Value.ne_anchor_of_not_isMarkup htotalLabel hanchor

/-- The first anchor of a plain name is the first of the template that is not written over. -/
theorem isFirstAnchor_iff (h : Marked template anchors columns groups g extent)
    (hr : Resolved g extent kinds g' r)
    (hencodable : ∀ name ∈ columns, Tag.isEncodable name = true)
    (hrecords : ∀ r, .data r ∈ PlannedRow.plan (groups.map Group.records) →
      r.Lacks Value.isMarkup)
    (hsubtotalLabel : Tag.isMarkup kinds.subtotalLabel = false)
    (htotalLabel : Tag.isMarkup kinds.totalLabel = false) {name : String}
    (hname : Tag.isPlainName name = true) :
    g'.IsFirstAnchor name c ↔ IsOpenAnchor template extent anchors columns name c := by
  have helsewhere {c : Cell} (hget : g'.get c = .text (Tag.anchor name).text) :
      Elsewhere extent anchors columns c := by
    refine Classical.not_not.mp fun hc => ?_
    exact h.get_ne_anchor hr hencodable hrecords hsubtotalLabel htotalLabel hname hc hget
  constructor
  · intro hboth
    obtain ⟨hget, hfirst⟩ := hboth
    have hc := helsewhere hget
    refine ⟨hc, (h.get_of_elsewhere hr hc).symm.trans hget, fun c' hc' hget' => ?_⟩
    exact hfirst c' ((h.get_of_elsewhere hr hc').trans hget')
  · intro hboth
    obtain ⟨hc, hget, hfirst⟩ := hboth
    refine ⟨(h.get_of_elsewhere hr hc).trans hget, fun c' hget' => ?_⟩
    have hc' := helsewhere hget'
    exact hfirst c' hc' ((h.get_of_elsewhere hr hc').symm.trans hget')

end Layout.Marked

namespace Assembler

section Cells

variable {a : Assembler} {template laid resolved final : Grid} {records : Records}
  {placeholders : Placeholders} {groups : List Group} {anchors : Anchors} {outcome : Outcome}
  {c : Cell}

namespace Assembled

/-- What is laid out and no markup is in the final grid. -/
theorem get_final_of_laid (h : Assembled a template records placeholders groups anchors laid
    resolved final outcome)
    (hnames : ∀ e ∈ placeholders.entries, Tag.isAnchorName e.1 = true)
    (hmarkup : (laid.get c).isMarkup = false) : final.get c = laid.get c := by
  have hget : resolved.get c = laid.get c := h.resolves.get_of_not_isMarkup hmarkup
  rw [← hget]
  exact h.get_final_of_not_isMarkup hnames (by rw [hget]; exact hmarkup)

/-- A row without tags is in the final grid as it was planned. -/
theorem get_final_of_planned (h : Assembled a template records placeholders groups anchors laid
    resolved final outcome)
    (hnames : ∀ e ∈ placeholders.entries, Tag.isAnchorName e.1 = true) {row : PlannedRow}
    {index col : Nat} {name : String}
    (hrow : (PlannedRow.plan (groups.map Group.records))[index]? = some row)
    (hname : records.columns[col]? = some name) (hat : c.IsAt outcome.extent.first index col)
    (hmarkup : (row.cellValue col name).isMarkup = false) :
    final.get c = row.cellValue col name := by
  have hlaid := h.rendered.planned hrow hname hat
  rw [← hlaid]
  exact h.get_final_of_laid hnames (by rw [hlaid]; exact hmarkup)

/-- Headers outside of the report's rows are in the final grid. -/
theorem get_final_of_header (h : Assembled a template records placeholders groups anchors laid
    resolved final outcome)
    (hnames : ∀ e ∈ placeholders.entries, Tag.isAnchorName e.1 = true) {col : Nat}
    {name : String} (hname : records.columns[col]? = some name)
    (hat : c.IsAt anchors.headerStart 0 col) (hcontains : outcome.extent.contains c = false) :
    final.get c = .text name := by
  have hlaid := h.rendered.header hname hat hcontains
  have hencodable := h.encodable name (List.mem_of_getElem? hname)
  rw [← hlaid]
  refine h.get_final_of_laid hnames ?_
  rw [hlaid]
  exact Value.not_isMarkup_of_isEncodable hencodable

/-- The closing row is cleared: its tag is no aggregate, no placeholder is put over it, and it
looks like a tag to the end. -/
theorem get_final_of_decorative (h : Assembled a template records placeholders groups anchors
    laid resolved final outcome)
    (hnames : ∀ e ∈ placeholders.entries, Tag.isPlainName e.1 = true) {index col : Nat}
    {name : String}
    (hrow : (PlannedRow.plan (groups.map Group.records))[index]? = some .decorative)
    (hname : records.columns[col]? = some name) (hat : c.IsAt outcome.extent.first index col) :
    final.get c = .empty := by
  have hlaid : laid.get c = .text (Tag.decorative Tag.totalBar).text :=
    h.rendered.planned hrow hname hat
  have htag : PlannedRow.decorative.tag? name = some (.decorative Tag.totalBar) := rfl
  have hholds := h.rendered.holdsTag_of_tag? h.encodable hrow hname hat htag
  have hresolved : resolved.get c = laid.get c := by
    refine h.resolves.get_of_not_aggregate fun tag hholds' => ?_
    rw [hholds'.unique hholds]
    rfl
  have hfill : (Markup.fill resolved placeholders).1.get c = laid.get c := by
    refine (Markup.get_fillList_of_ne fun e he heq => ?_).trans hresolved
    rw [hresolved, hlaid] at heq
    exact Tag.text_ne_of_isPlainName htag (hnames e he) (Value.text.inj heq)
  have hlooks : Tag.looksLikeTag (Value.text (Tag.decorative Tag.totalBar).text).print = true := by
    decide
  rw [h.final_eq, Markup.get_strip, hfill, hlaid, if_pos hlooks]

/-- Elsewhere, filling leaves the template with values at the open anchors of placeholders, and
what then still looks like a tag is cleared. -/
theorem get_final_of_elsewhere (h : Assembled a template records placeholders groups anchors
    laid resolved final outcome) (htemplate : template.Lacks Value.isAggregate)
    (hrecords : records.Lacks Value.isMarkup)
    (hsubtotalLabel : Tag.isMarkup a.kinds.subtotalLabel = false)
    (htotalLabel : Tag.isMarkup a.kinds.totalLabel = false)
    (hnames : ∀ e ∈ placeholders.entries, Tag.isPlainName e.1 = true)
    (hvalues : ∀ e ∈ placeholders.entries, e.2.isMarkup = false)
    (hc : Layout.Elsewhere outcome.extent anchors records.columns c) :
    (∀ e ∈ placeholders.entries, e.1 ∉ Tag.structural →
        Layout.IsOpenAnchor template outcome.extent anchors records.columns e.1 c →
          final.get c = e.2) ∧
      ((∀ e ∈ placeholders.entries, e.1 ∉ Tag.structural →
          ¬ Layout.IsOpenAnchor template outcome.extent anchors records.columns e.1 c) →
        final.get c =
          if Tag.looksLikeTag (template.get c).print = true then .empty else template.get c) := by
  have hm := h.marked htemplate (hrecords.mono fun _ => Value.not_isAggregate_of_not_isMarkup)
  have hiff {name : String} (hname : Tag.isPlainName name = true) :
      resolved.IsFirstAnchor name c ↔
        Layout.IsOpenAnchor template outcome.extent anchors records.columns name c :=
    hm.isFirstAnchor_iff h.resolves h.encodable
      (Grouper.lacks_of_data_mem_plan h.build_eq hrecords) hsubtotalLabel htotalLabel hname
  have hne : ∀ e ∈ placeholders.entries, ∀ e' ∈ placeholders.entries,
      e.2 ≠ .text (Tag.anchor e'.1).text := fun e he e' he' =>
    Value.ne_anchor_of_not_isMarkup (hvalues e he)
      (Tag.isAnchorName_of_isPlainName (hnames e' he'))
  refine ⟨fun e he hstructural hopen => ?_, fun hnone => ?_⟩
  · have hfill : (Markup.fill resolved placeholders).1.get c = e.2 :=
      Markup.get_fillList_of_isFirstAnchor placeholders.nodup_names hne he hstructural
        ((hiff (hnames e he)).mpr hopen)
    have hlooks := Value.not_looksLikeTag_print (hvalues e he)
    rw [h.final_eq, Markup.get_strip, hfill, hlooks]
    rfl
  · have hfill : (Markup.fill resolved placeholders).1.get c = resolved.get c :=
      Markup.get_fillList_of_not_isFirstAnchor placeholders.nodup_names
        fun e he hstructural hfirst =>
          hnone e he hstructural ((hiff (hnames e he)).mp hfirst)
    rw [h.final_eq, Markup.get_strip, hfill, hm.get_of_elsewhere h.resolves hc]

end Assembled

end Cells

/-- After a run, the data rows hold the records of the groups in order, blank rows and the
closing row are empty, headers outside of the report's rows hold the names of the columns, and
every other cell outside is as in the template, up to placeholders and what looks like a tag. -/
theorem report_is_template_plus_records {a : Assembler} {template final : Grid}
    {records : Records} {placeholders : Placeholders} {outcome : Outcome}
    (hrun : a.run template records placeholders = .ok (final, outcome))
    (htemplate : template.Lacks Value.isAggregate) (hrecords : records.Lacks Value.isMarkup)
    (hsubtotalLabel : Tag.isMarkup a.kinds.subtotalLabel = false)
    (htotalLabel : Tag.isMarkup a.kinds.totalLabel = false)
    (hnames : ∀ e ∈ placeholders.entries, Tag.isPlainName e.1 = true)
    (hvalues : ∀ e ∈ placeholders.entries, e.2.isMarkup = false) :
    ∃ groups anchors, a.grouper.build records = .ok groups ∧ template.anchors = .ok anchors ∧
      outcome.extent.first = anchors.dataStart ∧
      outcome.extent.last.row + 1 = anchors.dataStart.row +
        (PlannedRow.plan (groups.map Group.records)).length ∧
      outcome.extent.last.col + 1 = anchors.dataStart.col + records.columns.length ∧
      (PlannedRow.plan (groups.map Group.records)).filterMap PlannedRow.record? =
        (groups.flatMap Group.members).map Member.record ∧
      (groups.flatMap Group.members).Perm (Grouper.members records) ∧
      (∀ index col name (c : Cell), records.columns[col]? = some name →
        c.IsAt outcome.extent.first index col →
          (∀ r, (PlannedRow.plan (groups.map Group.records))[index]? = some (.data r) →
            final.get c = if (r.get col).isEmpty then .text notAvailable else r.get col) ∧
          ((PlannedRow.plan (groups.map Group.records))[index]? = some .blank →
            final.get c = .empty) ∧
          ((PlannedRow.plan (groups.map Group.records))[index]? = some .decorative →
            final.get c = .empty)) ∧
      (∀ col name (c : Cell), records.columns[col]? = some name →
        c.IsAt anchors.headerStart 0 col → outcome.extent.contains c = false →
          final.get c = .text name) ∧
      (∀ c, Layout.Elsewhere outcome.extent anchors records.columns c →
        (∀ e ∈ placeholders.entries, e.1 ∉ Tag.structural →
          Layout.IsOpenAnchor template outcome.extent anchors records.columns e.1 c →
            final.get c = e.2) ∧
        ((∀ e ∈ placeholders.entries, e.1 ∉ Tag.structural →
            ¬ Layout.IsOpenAnchor template outcome.extent anchors records.columns e.1 c) →
          final.get c =
            if Tag.looksLikeTag (template.get c).print = true then .empty
            else template.get c)) := by
  obtain ⟨groups, anchors, laid, resolved, h⟩ := run_eq_ok hrun
  have hanchorNames : ∀ e ∈ placeholders.entries, Tag.isAnchorName e.1 = true :=
    fun e he => Tag.isAnchorName_of_isPlainName (hnames e he)
  refine ⟨groups, anchors, h.build_eq, h.anchors_eq, h.rendered.first, h.rendered.last_row,
    h.rendered.last_col, ?_, (Grouper.build_eq_ok h.build_eq).1,
    fun index col name c hname hat => ⟨fun r hrow => ?_, fun hrow => ?_, fun hrow => ?_⟩,
    fun col name c hname hat hcontains => ?_, fun c hc => ?_⟩
  · rw [PlannedRow.filterMap_record?_plan, List.map_flatMap, ← List.flatMap_def]
    rfl
  · have hr := Grouper.lacks_of_data_mem_plan h.build_eq hrecords r (List.mem_of_getElem? hrow)
    exact h.get_final_of_planned hanchorNames hrow hname hat
      (PlannedRow.lacks_cellValue_data (fun _ => id) hr col name)
  · exact h.get_final_of_planned hanchorNames hrow hname hat rfl
  · exact h.get_final_of_decorative hnames hrow hname hat
  · exact h.get_final_of_header hanchorNames hname hat hcontains
  · exact h.get_final_of_elsewhere htemplate hrecords hsubtotalLabel htotalLabel hnames hvalues hc

/-- In the small report, a missing value is shown as such, the blank row and the closing row are
empty, and the header and the placeholder stand above them. -/
theorem smallReport_report_is_template_plus_records :
    SmallReport.template.Lacks Value.isAggregate ∧ SmallReport.records.Lacks Value.isMarkup ∧
      Tag.isMarkup SmallReport.assembler.kinds.subtotalLabel = false ∧
      Tag.isMarkup SmallReport.assembler.kinds.totalLabel = false ∧
      (∀ e ∈ SmallReport.placeholders.entries, Tag.isPlainName e.1 = true) ∧
      (∀ e ∈ SmallReport.placeholders.entries, e.2.isMarkup = false) ∧
      ∃ final outcome,
        SmallReport.assembler.run SmallReport.template SmallReport.records
          SmallReport.placeholders = .ok (final, outcome) ∧
        final.get (SmallReport.cell 2 1) = .text "n/a" ∧
        final.get (SmallReport.cell 4 1) = .empty ∧
        final.get (SmallReport.cell 8 1) = .empty ∧
        final.get (SmallReport.cell 0 1) = .text "Ad server impressions" ∧
        final.get (SmallReport.cell 0 6) = .text "North" := by
  have htemplate : SmallReport.template.Lacks Value.isAggregate := by decide +kernel
  have hrecords : SmallReport.records.Lacks Value.isMarkup := by decide +kernel
  have hsubtotalLabel : Tag.isMarkup SmallReport.assembler.kinds.subtotalLabel = false := by
    decide +kernel
  have htotalLabel : Tag.isMarkup SmallReport.assembler.kinds.totalLabel = false := by
    decide +kernel
  have hnames : ∀ e ∈ SmallReport.placeholders.entries, Tag.isPlainName e.1 = true := by
    decide +kernel
  have hvalues : ∀ e ∈ SmallReport.placeholders.entries, e.2.isMarkup = false := by decide +kernel
  obtain ⟨final, outcome, hrun, -⟩ := SmallReport.exists_run_eq_ok
  refine ⟨htemplate, hrecords, hsubtotalLabel, htotalLabel, hnames, hvalues, final, outcome, hrun,
    ?_⟩
  obtain ⟨groups, anchors, hgroups, hanchors, hfirst, -, -, -, -, hrows, hheaders, helsewhere⟩ :=
    report_is_template_plus_records hrun htemplate hrecords hsubtotalLabel htotalLabel hnames
      hvalues
  obtain rfl := Except.ok.inj (SmallReport.build_eq.symm.trans hgroups)
  obtain rfl := Except.ok.inj (SmallReport.anchors_eq.symm.trans hanchors)
  rw [hfirst] at hrows
  have habove (col : Fin 10) : outcome.extent.contains (SmallReport.cell 0 col) = false := by
    simp [Extent.contains, hfirst, SmallReport.anchors, SmallReport.cell]
  obtain ⟨hdata, -, -⟩ := hrows 1 1 _ (SmallReport.cell 2 1) rfl ⟨rfl, rfl⟩
  obtain ⟨-, hblank, -⟩ := hrows 3 1 _ (SmallReport.cell 4 1) rfl ⟨rfl, rfl⟩
  obtain ⟨-, -, hbar⟩ := hrows 7 1 _ (SmallReport.cell 8 1) rfl ⟨rfl, rfl⟩
  have hclient : Layout.Elsewhere outcome.extent SmallReport.anchors SmallReport.records.columns
      (SmallReport.cell 0 6) := by
    refine ⟨habove 6, fun col hcol hat => ?_⟩
    have hwidth : SmallReport.records.columns.length = 5 := rfl
    have hsix : 6 = 0 + col := hat.2
    omega
  have hfilled := (helsewhere _ hclient).1 ("client", .text "North") (by decide +kernel)
    (by decide) ⟨hclient, rfl, fun c' _ hget => ?_⟩
  · exact ⟨hdata _ rfl, hblank rfl, hbar rfl, hheaders 1 _ _ rfl ⟨rfl, rfl⟩ (habove 1), hfilled⟩
  · have honly : ∀ e ∈ SmallReport.template.entries, e.2 = .text (Tag.anchor "client").text →
        (SmallReport.cell 0 6).index ≤ e.1.index := by
      decide +kernel
    have hmem : (c', Value.text (Tag.anchor "client").text) ∈ SmallReport.template.entries :=
      Grid.mem_entries.mpr ⟨hget, by simp⟩
    exact honly (c', .text (Tag.anchor "client").text) hmem rfl

end Assembler

end SheetReport
