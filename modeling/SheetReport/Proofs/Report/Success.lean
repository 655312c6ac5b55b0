import SheetReport.Proofs.Report.Stages

/-!
# When an assembly succeeds

After the anchors are found and the records grouped, an assembly can only fail at a column
without a tag, at a place off the sheet, or at a ratio without two columns to its left. The
tags that the layout writes are always read back, and no cell is ambiguous.

Main statements: `exists_run_eq_ok` and the lemmas `run_of_…`, one for each way to fail. The
small reports at the end are the ones that the theorems about whole runs are applied to.
-/

namespace SheetReport

open Resolution

/-- Whether every ratio has two columns to its left. -/
def Layout.RatiosFit (kinds : ColumnKinds) (columns : List String) (first : Cell) : Prop :=
  ∀ col name, columns[col]? = some name → kinds.classify name = .ratio → 2 ≤ first.col + col

namespace Layout.Marked

variable {template g : Grid} {anchors : Anchors} {columns : List String}
  {groups : List Group} {extent : Extent} {kinds : ColumnKinds} {tags : List (Cell × Tag)}

/-- The column of a total is one of the report's. -/
theorem exists_of_mem_totalsOf (h : Marked template anchors columns groups g extent)
    (htags : g.tags = .ok tags) {t : Total} (ht : t ∈ totalsOf kinds tags) :
    ∃ col, columns[col]? = some t.column ∧ t.kind = kinds.classify t.column ∧
      t.cell.col = extent.first.col + col := by
  obtain ⟨hmem, hkind⟩ := mem_totalsOf_iff.mp ht
  obtain ⟨col, hname, -, hcol⟩ := h.total_iff.mp ((Grid.mem_tags_iff htags).mp hmem)
  exact ⟨col, hname, hkind, hcol⟩

/-- The column of a subtotal is one of the report's, and its range stays on the sheet. -/
theorem exists_of_mem_subtotalsOf (h : Marked template anchors columns groups g extent)
    (htags : g.tags = .ok tags) {s : Subtotal} (hs : s ∈ subtotalsOf kinds tags) :
    ∃ col, columns[col]? = some s.column ∧ s.kind = kinds.classify s.column ∧
      s.cell.col = extent.first.col + col ∧ ∃ v, sumFormula s = .ok v := by
  obtain ⟨hmem, hkind⟩ := mem_subtotalsOf_iff.mp hs
  obtain ⟨b, -, hlarge, hsize, col, hname, hat⟩ :=
    h.subtotal_iff.mp ((Grid.mem_tags_iff htags).mp hmem)
  rw [← hsize] at hlarge hat
  obtain ⟨first, last, hsummed, -, -⟩ := Subtotal.summed_eq_ok (Nat.zero_lt_of_lt hlarge) hat
  exact ⟨col, hname, hkind, hat.2, _, by rw [sumFormula, hsummed]; rfl⟩

/-- The only formula that cannot be built is a ratio without two columns to its left. -/
theorem exists_ratio_of_error (h : Marked template anchors columns groups g extent)
    (htags : g.tags = .ok tags) {error : ReportError}
    (herror : (∃ t ∈ totalsOf kinds tags, plainTotal? kinds t = .error error) ∨
      ∃ s ∈ subtotalsOf kinds tags, subtotalValue? kinds s = .error error) :
    ∃ c col name, columns[col]? = some name ∧ kinds.classify name = .ratio ∧
      c.col = extent.first.col + col ∧ ratioFormula c = .error error := by
  rcases herror with ⟨t, ht, herror⟩ | ⟨s, hs, herror⟩
  · obtain ⟨col, hname, hkind, hcol⟩ := h.exists_of_mem_totalsOf htags ht
    unfold plainTotal? at herror
    cases hk : t.kind <;> simp only [hk, map_eq_error_iff, reduceCtorEq] at herror
    exact ⟨t.cell, col, t.column, hname, hkind.symm.trans hk, hcol, herror⟩
  · obtain ⟨col, hname, hkind, hcol, v, hsum⟩ := h.exists_of_mem_subtotalsOf htags hs
    unfold subtotalValue? at herror
    cases hk : s.kind <;> simp only [hk, map_eq_error_iff, reduceCtorEq] at herror
    · exact ⟨s.cell, col, s.column, hname, hkind.symm.trans hk, hcol, herror⟩
    · simp [hsum] at herror

/-- If every ratio has two columns to its left, the aggregates are resolved. -/
theorem exists_resolve_eq_ok (h : Marked template anchors columns groups g extent)
    (htags : ∃ tags, g.tags = .ok tags) (hratios : RatiosFit kinds columns extent.first) :
    ∃ out, resolve g extent kinds = .ok out := by
  obtain ⟨tags, htags⟩ := htags
  rcases resolve_cases extent htags (h.ambiguity?_eq_none htags kinds) with
    hout | ⟨error, -, herror⟩
  · exact hout
  · obtain ⟨c, col, name, hname, hkind, hcol, herror⟩ := h.exists_ratio_of_error htags herror
    obtain ⟨v, hv⟩ := exists_ratioFormula_iff.mpr (hcol ▸ hratios col name hname hkind)
    simp [hv] at herror

/-- Otherwise the ratio of the total row is out of bounds. -/
theorem resolve_of_not_ratiosFit (h : Marked template anchors columns groups g extent)
    (htags : ∃ tags, g.tags = .ok tags) (hratios : ¬ RatiosFit kinds columns extent.first) :
    ∃ anchor down right, resolve g extent kinds = .error (.outOfBounds anchor down right) := by
  obtain ⟨tags, htags⟩ := htags
  rcases resolve_cases extent htags (h.ambiguity?_eq_none htags kinds) with
    ⟨out, hout⟩ | ⟨error, hresolve, herror⟩
  · refine absurd (fun col name hname hkind => ?_) hratios
    obtain ⟨c, hrow, hcol⟩ := h.exists_total_cell hname
    obtain ⟨numerator, denominator, -, -, -, hdenominator, -⟩ :=
      h.get_total_ratio (resolve_eq_ok hout) hname hrow hcol hkind
    omega
  · obtain ⟨c, -, -, -, -, -, herror⟩ := h.exists_ratio_of_error htags herror
    obtain ⟨anchor, down, right, rfl⟩ := eq_outOfBounds_of_ratioFormula herror
    exact ⟨anchor, down, right, hresolve⟩

end Layout.Marked

namespace Assembler

/-- The settings of an assembler are its rules. -/
theorem settings_of_ofRules? {rules : AssemblyRules} {a : Assembler}
    (h : ofRules? rules = some a) : a.grouper.rules = rules.grouping ∧ a.kinds = rules.kinds := by
  simp only [ofRules?, Grouper.ofRules?, bind, Option.map_eq_some_iff, Option.bind_eq_some_iff,
    Option.some.injEq] at h
  obtain ⟨grouper, ⟨lineItem, -, order, -, rfl⟩, rfl⟩ := h
  exact ⟨rfl, rfl⟩

variable {a : Assembler} {template : Grid} {records : Records} (placeholders : Placeholders)
  {anchors : Anchors} {groups : List Group}

/-- A template without its structural anchors is reported. -/
theorem run_of_no_anchors (h : ¬ ∃ anchors, template.anchors = .ok anchors) :
    ∃ names, a.run template records placeholders = .error (.missingAnchor names) := by
  cases hanchors : template.anchors with
  | ok anchors => exact absurd ⟨anchors, hanchors⟩ h
  | error error =>
    obtain ⟨names, rfl⟩ := Grid.exists_eq_missingAnchor_of_anchors hanchors
    exact ⟨names, by rw [run, hanchors]; rfl⟩

/-- An error of the grouping is the error of the run. -/
theorem run_of_build_eq_error (hanchors : template.anchors = .ok anchors) {error : ReportError}
    (h : a.grouper.build records = .error error) :
    a.run template records placeholders = .error error := by
  rw [run, hanchors, h]
  rfl

/-- An error of laying out and resolving is the error of the run. -/
theorem run_of_compose_eq_error (hanchors : template.anchors = .ok anchors)
    (hgroups : a.grouper.build records = .ok groups) {error : ReportError}
    (h : a.compose template records.columns groups = .error error) :
    a.run template records placeholders = .error error := by
  rw [run, hanchors, hgroups]
  simp only [bind, Except.bind, h]

/-- Nothing fails after laying out and resolving. -/
theorem exists_run_of_compose (hanchors : template.anchors = .ok anchors)
    (hgroups : a.grouper.build records = .ok groups)
    (h : ∃ composed, a.compose template records.columns groups = .ok composed) :
    ∃ out, a.run template records placeholders = .ok out := by
  obtain ⟨composed, hcomposed⟩ := h
  rw [run, hanchors, hgroups]
  simp only [bind, Except.bind, hcomposed, Except.ok.injEq, exists_eq']

/-- A column without a tag is reported. -/
theorem run_of_not_isEncodable (hanchors : template.anchors = .ok anchors)
    (hgroups : a.grouper.build records = .ok groups)
    (h : ¬ ∀ name ∈ records.columns, Tag.isEncodable name = true) :
    ∃ column ∈ records.columns, Tag.isEncodable column = false ∧
      a.run template records placeholders = .error (.unencodableColumn column) := by
  simp only [Classical.not_forall, Bool.not_eq_true] at h
  obtain ⟨name, hname, hfalse⟩ := h
  obtain ⟨column, hcolumn, hbad, hrender⟩ := Layout.render_of_not_isEncodable
    (groups.map Group.records) hanchors ⟨name, hname, hfalse⟩
  refine ⟨column, hcolumn, hbad, run_of_compose_eq_error placeholders hanchors hgroups ?_⟩
  rw [compose, hrender]

/-- A report that does not fit on the sheet is out of bounds. -/
theorem run_of_not_fits (hanchors : template.anchors = .ok anchors)
    (hgroups : a.grouper.build records = .ok groups)
    (hencodable : ∀ name ∈ records.columns, Tag.isEncodable name = true)
    (h : ¬ Layout.Fits anchors records.columns (PlannedRow.plan (groups.map Group.records))) :
    ∃ anchor down right,
      a.run template records placeholders = .error (.outOfBounds anchor down right) := by
  obtain ⟨-, hfails⟩ := Layout.render_of_isEncodable (groups.map Group.records)
    (columns_ne_nil_of_build hgroups) hanchors hencodable
  obtain ⟨g, anchor, down, right, hrender⟩ := hfails h
  refine ⟨anchor, down, right, run_of_compose_eq_error placeholders hanchors hgroups ?_⟩
  rw [compose, hrender]

/-- A report that fits on the sheet is laid out, and all its tags can be read. -/
theorem exists_marked (hanchors : template.anchors = .ok anchors)
    (hgroups : a.grouper.build records = .ok groups)
    (hencodable : ∀ name ∈ records.columns, Tag.isEncodable name = true)
    (hfits : Layout.Fits anchors records.columns (PlannedRow.plan (groups.map Group.records)))
    (htemplate : template.Lacks Value.resemblesAggregate)
    (hrecords : records.Lacks Value.resemblesAggregate) :
    ∃ laid extent,
      Layout.render template records.columns (groups.map Group.records) = (laid, .ok extent) ∧
        Layout.Marked template anchors records.columns groups laid extent ∧
          ∃ tags, laid.tags = .ok tags := by
  have hcolumns := columns_ne_nil_of_build hgroups
  obtain ⟨hlaid, -⟩ := Layout.render_of_isEncodable (groups.map Group.records)
    hcolumns hanchors hencodable
  obtain ⟨laid, extent, hrender⟩ := hlaid hfits
  obtain ⟨anchors', hanchors', -, hrendered⟩ := Layout.render_eq_ok hcolumns hrender
  obtain rfl := Except.ok.inj (hanchors.symm.trans hanchors')
  have hdata {test : Value → Bool} (hlacks : records.Lacks test) :=
    Grouper.lacks_of_data_mem_plan hgroups hlacks
  have haggregate (v : Value) (hv : v.resemblesAggregate = false) : v.isAggregate = false :=
    (Bool.or_eq_false_iff.mp hv).1
  have hrejected (v : Value) (hv : v.resemblesAggregate = false) : v.isRejected = false :=
    (Bool.or_eq_false_iff.mp hv).2
  exact ⟨laid, extent, hrender,
    hrendered.marked hencodable (htemplate.mono haggregate) (hdata (hrecords.mono haggregate)),
    hrendered.exists_tags hencodable (htemplate.mono hrejected) (hdata (hrecords.mono hrejected))⟩

/-- A report that fits on the sheet, ratios included, is assembled. -/
theorem exists_run_eq_ok (hanchors : template.anchors = .ok anchors)
    (hgroups : a.grouper.build records = .ok groups)
    (hencodable : ∀ name ∈ records.columns, Tag.isEncodable name = true)
    (hfits : Layout.Fits anchors records.columns (PlannedRow.plan (groups.map Group.records)))
    (hratios : Layout.RatiosFit a.kinds records.columns anchors.dataStart)
    (htemplate : template.Lacks Value.resemblesAggregate)
    (hrecords : records.Lacks Value.resemblesAggregate) :
    ∃ out, a.run template records placeholders = .ok out := by
  obtain ⟨laid, extent, hrender, hmarked, htags⟩ := exists_marked hanchors hgroups hencodable
    hfits htemplate hrecords
  rw [← hmarked.first] at hratios
  obtain ⟨out, hresolve⟩ := hmarked.exists_resolve_eq_ok htags hratios
  refine exists_run_of_compose placeholders hanchors hgroups ⟨(out.1, extent, out.2), ?_⟩
  rw [compose, hrender]
  simp only [hresolve, Except.map]

/-- A report that fits on the sheet except for a ratio is out of bounds. -/
theorem run_of_not_ratiosFit (hanchors : template.anchors = .ok anchors)
    (hgroups : a.grouper.build records = .ok groups)
    (hencodable : ∀ name ∈ records.columns, Tag.isEncodable name = true)
    (hfits : Layout.Fits anchors records.columns (PlannedRow.plan (groups.map Group.records)))
    (hratios : ¬ Layout.RatiosFit a.kinds records.columns anchors.dataStart)
    (htemplate : template.Lacks Value.resemblesAggregate)
    (hrecords : records.Lacks Value.resemblesAggregate) :
    ∃ anchor down right,
      a.run template records placeholders = .error (.outOfBounds anchor down right) := by
  obtain ⟨laid, extent, hrender, hmarked, htags⟩ := exists_marked hanchors hgroups hencodable
    hfits htemplate hrecords
  rw [← hmarked.first] at hratios
  obtain ⟨anchor, down, right, hresolve⟩ := hmarked.resolve_of_not_ratiosFit htags hratios
  refine ⟨anchor, down, right, run_of_compose_eq_error placeholders hanchors hgroups ?_⟩
  rw [compose, hrender]
  simp only [hresolve, Except.map]

end Assembler

namespace SmallReport

/-- A cell near the beginning of a sheet. -/
def cell (row col : Fin 10) : Cell := ⟨row, col, by omega, by omega⟩

/-- A template with its structural anchors and one placeholder. -/
def template : Grid :=
  .ofList [(cell 0 0, .text "<header_start>"), (cell 0 6, .text "<client>"),
    (cell 1 0, .text "<data_start>"), (cell 2 0, .text "<data_end>")]

/-- Three records: the first two form a group, the last one stands alone. -/
def records : Records :=
  ⟨["Line Item", "Ad server impressions", "Ad server clicks", "Ad server CTR",
      "Delivery Indicator"],
    [⟨[.text "ORD-1-1-1", .text "10"]⟩, ⟨[.text "ORD-1-1-1"]⟩,
      ⟨[.text "ORD-2-1-1", .text "20"]⟩]⟩

/-- The groups of the records. -/
def groups : List Group :=
  [⟨⟨"", "", .lineItem "ORD-1-1-1"⟩,
      [⟨0, ⟨[.text "ORD-1-1-1", .text "10"]⟩⟩, ⟨1, ⟨[.text "ORD-1-1-1"]⟩⟩]⟩,
    ⟨⟨"", "", .lineItem "ORD-2-1-1"⟩, [⟨2, ⟨[.text "ORD-2-1-1", .text "20"]⟩⟩]⟩]

/-- A value for the placeholder. -/
def placeholders : Placeholders := OrderedMap.empty.insert "client" (.text "North")

/-- The assembler for the default rules. -/
def assembler : Assembler := (Assembler.ofRules? {}).get (by decide +kernel)

/-- The assembler groups by the default rules. -/
theorem rules_eq : assembler.grouper.rules = {} :=
  (Assembler.settings_of_ofRules? (Option.some_get _).symm).1

/-- The assembler has the default kinds of columns. -/
theorem kinds_eq : assembler.kinds = {} :=
  (Assembler.settings_of_ofRules? (Option.some_get _).symm).2

/-- The anchors of the template. -/
def anchors : Anchors := ⟨cell 1 0, cell 2 0, cell 0 0⟩

/-- The anchors are found. -/
theorem anchors_eq : template.anchors = .ok anchors := rfl

/-- The records come in the order of grouping. -/
theorem sorted_eq : assembler.grouper.sorted records 0 = Grouper.members records := by
  have hsorted : (Grouper.members records).Pairwise fun m m' =>
      (assembler.grouper.compare records 0 m.record m'.record).isLE = true := by
    simp only [Grouper.compare, rules_eq]
    decide
  exact List.mergeSort_of_pairwise hsorted

/-- The records are grouped. -/
theorem build_eq : assembler.grouper.build records = .ok groups := by
  have hrequire : records.require assembler.grouper.rules.lineItem = .ok 0 := rfl
  have hkeyed : (((Grouper.members records).mapM fun m =>
      (assembler.grouper.keyOf records 0 m).map (·, m)).toOption.map Group.gather) =
        some groups := by
    decide +kernel
  rw [Grouper.build, hrequire]
  simp only [bind, Except.bind, sorted_eq]
  split
  · rename_i hrun
    simp [hrun, Except.toOption] at hkeyed
  · rename_i keyed hrun
    simpa [hrun, Except.toOption] using hkeyed

/-- Every column has a tag. -/
theorem encodes : ∀ name ∈ records.columns, Tag.isEncodable name = true := by decide

/-- The report fits on the sheet. -/
theorem fits : Layout.Fits anchors records.columns
    (PlannedRow.plan (groups.map Group.records)) := by
  decide

/-- The only ratio stands in the fourth column. -/
theorem ratiosFit : Layout.RatiosFit assembler.kinds records.columns anchors.dataStart := by
  have hkinds : (records.columns.zipIdx.all fun e =>
      assembler.kinds.classify e.1 != .ratio || decide (2 ≤ e.2)) = true := by
    rw [kinds_eq]
    decide
  intro col name hname hkind
  have he := List.all_eq_true.mp hkinds (name, col) (List.mk_mem_zipIdx_iff_getElem?.mpr hname)
  simpa [hkind, anchors, cell] using he

/-- The small report is assembled. -/
theorem exists_run_eq_ok :
    ∃ final outcome, assembler.run template records placeholders = .ok (final, outcome) ∧
      outcome.extent.first = anchors.dataStart := by
  obtain ⟨⟨final, outcome⟩, hrun⟩ := Assembler.exists_run_eq_ok placeholders anchors_eq build_eq
    encodes fits ratiosFit (by decide) (by decide)
  obtain ⟨groups', anchors', laid, resolved, h⟩ := Assembler.run_eq_ok hrun
  obtain rfl := Except.ok.inj (anchors_eq.symm.trans h.anchors_eq)
  exact ⟨final, outcome, hrun, h.rendered.first⟩

end SmallReport

namespace LoneReport

open SmallReport (template assembler anchors anchors_eq kinds_eq)

/-- One record with a note and without a number of clicks, for the template of the small
report. -/
def records (note : String) : Records :=
  ⟨["Line Item", "Note", "Ad server clicks"], [⟨[.text "ORD-1", .text note]⟩]⟩

/-- The only group. -/
def groups (note : String) : List Group :=
  [⟨⟨"", "", .order "ORD-1"⟩, [⟨0, ⟨[.text "ORD-1", .text note]⟩⟩]⟩]

/-- The record is grouped, whatever its note. -/
theorem build_eq (note : String) : assembler.grouper.build (records note) = .ok (groups note) := by
  have hrequire : (records note).require assembler.grouper.rules.lineItem = .ok 0 := rfl
  have hidentifier : assembler.grouper.identifier? "ORD-1" = some (.order "ORD-1") := by
    decide +kernel
  have hsorted : assembler.grouper.sorted (records note) 0 = Grouper.members (records note) :=
    List.mergeSort_singleton _
  have hkey (m : Member) (hm : m.record.get 0 = .text "ORD-1") :
      assembler.grouper.keyOf (records note) 0 m = .ok ⟨"", "", .order "ORD-1"⟩ := by
    rw [Grouper.keyOf, hm]
    simp only [Value.print, hidentifier]
    rfl
  have hkeyed : ((assembler.grouper.sorted (records note) 0).mapM fun m =>
      (assembler.grouper.keyOf (records note) 0 m).map (·, m)) =
        .ok ((Grouper.members (records note)).map (⟨"", "", .order "ORD-1"⟩, ·)) := by
    rw [hsorted, mapM_eq_ok_iff, List.map_map]
    refine List.map_congr_left fun m hm => ?_
    obtain rfl := List.mem_singleton.mp hm
    rw [hkey _ rfl]
    rfl
  rw [Grouper.build, hrequire]
  simp only [bind, Except.bind, hkeyed]
  rfl

/-- Every column has a tag. -/
theorem encodes (note : String) : ∀ name ∈ (records note).columns, Tag.isEncodable name = true := by
  have hcolumns : ∀ name ∈ ["Line Item", "Note", "Ad server clicks"],
      Tag.isEncodable name = true := by
    decide
  exact hcolumns

/-- The report fits on the sheet. -/
theorem fits (note : String) : Layout.Fits anchors (records note).columns
    (PlannedRow.plan ((groups note).map Group.records)) := by
  have hplan : Layout.Fits anchors ["Line Item", "Note", "Ad server clicks"]
      (PlannedRow.plan [[⟨[]⟩]]) := by
    decide
  exact hplan

/-- There is no ratio. -/
theorem ratiosFit (note : String) :
    Layout.RatiosFit assembler.kinds (records note).columns anchors.dataStart := by
  have hkinds : ∀ name ∈ ["Line Item", "Note", "Ad server clicks"],
      assembler.kinds.classify name ≠ .ratio := by
    rw [kinds_eq]
    decide
  intro col name hname hkind
  exact absurd hkind (hkinds name (List.mem_of_getElem? hname))

/-- With a note that resembles no aggregate, the report is assembled. -/
theorem exists_run_eq_ok {note : String} (placeholders : Placeholders)
    (hnote : (Value.text note).resemblesAggregate = false) :
    ∃ final outcome,
      assembler.run template (records note) placeholders = .ok (final, outcome) := by
  have htemplate : template.Lacks Value.resemblesAggregate := by decide
  have hline : (Value.text "ORD-1").resemblesAggregate = false := by decide
  have hrecords : (records note).Lacks Value.resemblesAggregate := by
    simp only [Records.Lacks, Record.Lacks, records, List.forall_mem_singleton,
      List.forall_mem_cons, hline, hnote, and_self]
  obtain ⟨⟨final, outcome⟩, hrun⟩ := Assembler.exists_run_eq_ok placeholders anchors_eq
    (build_eq note) (encodes note) (fits note) (ratiosFit note) htemplate hrecords
  exact ⟨final, outcome, hrun⟩

/-- With a note that is no tag at all, the report is assembled. -/
theorem exists_run_plain : ∃ final outcome,
    assembler.run template (records "plain") .empty = .ok (final, outcome) :=
  exists_run_eq_ok .empty (by decide)

end LoneReport

namespace BlockReport

open SmallReport (cell assembler kinds_eq)

/-- A template with the placeholder of the order above the second column, and a subtotal below the
rows of a short report. -/
def template : Grid :=
  .ofList [(cell 0 1, .text "<order_id>"), (cell 1 0, .text "<header_start>"),
    (cell 2 0, .text "<data_start>"), (cell 3 0, .text "<data_end>"),
    (cell 6 2, .text "<subtotal_3_Delivery Indicator>")]

/-- A value for the placeholder. -/
def placeholders : Placeholders := OrderedMap.empty.insert "order_id" (.text "ORD-1")

/-- One record. -/
def records : Records := LoneReport.records "plain"

/-- The group of the record. -/
def groups : List Group := LoneReport.groups "plain"

/-- The rectangle of its report. -/
def extent : Extent := ⟨cell 2 0, cell 5 2⟩

/-- The template with the report laid out. -/
def laid : Grid := (Layout.render template records.columns (groups.map Group.records)).1

/-- The tags of the report, and those of the template that are left. -/
def tags : List (Cell × Tag) :=
  [(cell 0 1, .anchor "order_id"), (cell 4 0, .total "Line Item"), (cell 4 1, .total "Note"),
    (cell 4 2, .total "Ad server clicks"), (cell 5 0, .decorative Tag.totalBar),
    (cell 5 1, .decorative Tag.totalBar), (cell 5 2, .decorative Tag.totalBar),
    (cell 6 2, .subtotal 3 "Delivery Indicator")]

/-- The resolution: the subtotal of the template is one like those of a report. -/
def resolution : Resolution where
  subtotals := [⟨cell 6 2, 3, "Delivery Indicator", .label⟩]
  totals := [⟨cell 4 0, "Line Item", .other⟩, ⟨cell 4 1, "Note", .other⟩,
    ⟨cell 4 2, "Ad server clicks", .count⟩]
  writes := [(cell 4 2, .formula "=C3"), (cell 6 2, .text "Total")]

/-- The resolved grid with the placeholder filled, and the cell of the placeholder. -/
def filled : Grid × List (Cell × String) :=
  Markup.fill (laid.setAll resolution.writes) placeholders

/-- What the assembly says. -/
def outcome : Outcome where
  extent := extent
  groups := 1
  subtotalledGroups := 0
  resolution := resolution
  placeholders := filled.2
  stripped := (Markup.strip filled.1).2

/-- The assembled grid. -/
def final : Grid := (Markup.strip filled.1).1

/-- The tags are read. -/
theorem tags_eq : laid.tags = .ok tags := by
  have hread : laid.tags.toOption = some tags := by decide
  exact eq_ok_of_toOption hread

/-- The tags are resolved. -/
theorem ofGrid_eq : Resolution.ofGrid laid extent assembler.kinds = .ok resolution := by
  have hsubtotals : Resolution.subtotalsOf assembler.kinds tags = resolution.subtotals := by
    rw [kinds_eq]
    decide
  have hclear : Subtotal.ambiguity? (Resolution.subtotalsOf assembler.kinds tags) = none := by
    rw [hsubtotals, Subtotal.ambiguity?, resolution, List.mergeSort_singleton, Subtotal.firstClash?]
    exact fun _ _ _ h => by simp at h
  rw [Resolution.ofGrid_eq extent tags_eq hclear]
  apply eq_ok_of_toOption
  rw [kinds_eq]
  decide

/-- The report is assembled, whatever its placeholders are filled with. -/
theorem run_of_placeholders (placeholders : Placeholders) :
    let filled := Markup.fill (laid.setAll resolution.writes) placeholders
    assembler.run template records placeholders = .ok ((Markup.strip filled.1).1,
      { outcome with placeholders := filled.2, stripped := (Markup.strip filled.1).2 }) := by
  have hanchors : template.anchors = .ok ⟨cell 2 0, cell 3 0, cell 1 0⟩ := rfl
  have hgroups : assembler.grouper.build records = .ok groups := LoneReport.build_eq "plain"
  have hrender : Layout.render template records.columns (groups.map Group.records) =
      (laid, .ok extent) := rfl
  have hcompose : assembler.compose template records.columns groups =
      .ok (laid.setAll resolution.writes, extent, resolution) := by
    rw [Assembler.compose, hrender]
    simp only [Resolution.resolve, ofGrid_eq, Except.map]
  rw [Assembler.run, hanchors, hgroups]
  simp only [bind, Except.bind, hcompose]
  rfl

/-- The report is assembled. -/
theorem run_eq : assembler.run template records placeholders = .ok (final, outcome) :=
  run_of_placeholders placeholders

end BlockReport

end SheetReport
