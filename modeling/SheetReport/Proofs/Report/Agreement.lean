import SheetReport.Proofs.Report.MaskedRecords
import SheetReport.Proofs.Report.Success

/-!
# Texts of other columns do not change the report

Two record sets that differ in the texts of one column are assembled alike, if grouping does not
read the column and no differing text is read as an aggregate or rejected as one: both runs fail
with the same error, or both succeed with the same rectangle, groups and resolution. Nothing is
assumed of the template and of the placeholders.

The condition on the texts is needed, since tags are looked for in all texts of the sheet.

Main statement: `run_agrees_of_differInTexts`.
-/

namespace SheetReport

/-- Whether two records differ only in texts under a column, and these pass a test. -/
def Record.DifferInTexts (test : String → Bool) (columns : List String) (column : String)
    (r r' : Record) : Prop :=
  r.values.length = r'.values.length ∧
    ∀ i, r.get i = r'.get i ∨ columns[i]? = some column ∧
      ∃ s s', r.get i = .text s ∧ r'.get i = .text s' ∧ test s = true ∧ test s' = true

/-- Whether two record sets of as many records differ only in texts under a column, and these
pass a test. -/
def Records.DifferInTexts (test : String → Bool) (column : String) (s s' : Records) : Prop :=
  s.columns = s'.columns ∧
    List.Forall₂ (Record.DifferInTexts test s.columns column) s.records s'.records

/-- Whether a text is neither read as an aggregate nor rejected as one. -/
def Tag.isNoAggregate (s : String) : Bool := !(Value.text s).resemblesAggregate

/-- Records of one length with the same fields are equal. -/
theorem Record.ext_get {r r' : Record} (hlength : r.values.length = r'.values.length)
    (h : ∀ i, r.get i = r'.get i) : r = r' := by
  obtain ⟨values⟩ := r
  obtain ⟨values'⟩ := r'
  refine congrArg Record.mk (List.ext_getElem hlength fun i hi hi' => ?_)
  simpa [get, List.getD_eq_getElem?_getD, hi, hi'] using h i

/-- Records that differ in texts that are no aggregates are the same when masked. -/
theorem Record.DifferInTexts.masked_eq {columns : List String} {column : String} {r r' : Record}
    (h : DifferInTexts Tag.isNoAggregate columns column r r') :
    r.masked columns column = r'.masked columns column := by
  obtain ⟨hlength, hfields⟩ := h
  refine ext_get (by simp [masked, hlength]) fun i => ?_
  rw [get_masked, get_masked]
  rcases hfields i with hsame | ⟨hcolumn, s, s', hs, hs', htest, htest'⟩
  · rw [hsame]
  · simp only [Tag.isNoAggregate, Bool.not_eq_true'] at htest htest'
    rw [if_pos hcolumn, if_pos hcolumn, hs, hs', Value.masked_of_not_resemblesAggregate htest,
      Value.masked_of_not_resemblesAggregate htest']

/-- Record sets that differ in texts that are no aggregates are the same when masked. -/
theorem Records.DifferInTexts.masked_eq {column : String} {s s' : Records}
    (h : DifferInTexts Tag.isNoAggregate column s s') : s.masked column = s'.masked column := by
  obtain ⟨columns, records⟩ := s
  obtain ⟨columns', records'⟩ := s'
  obtain ⟨rfl, hrecords⟩ := h
  have hmasked : records.map (Record.masked columns column) =
      records'.map (Record.masked columns column) := by
    rw [← List.forall₂_eq_eq_eq, List.forall₂_map_left_iff, List.forall₂_map_right_iff]
    exact hrecords.imp fun {r r'} hdiffer => hdiffer.masked_eq
  exact congrArg (Records.mk columns) hmasked

/-- Whether a run of fallible writes succeeds, and with which error it fails, is a matter of
places. -/
theorem Grid.snd_setUntil {g g' : Grid} {writes writes' : List (Except ReportError (Cell × Value))}
    (h : writes.map (·.map Prod.fst) = writes'.map (·.map Prod.fst)) :
    (g.setUntil writes).2 = (g'.setUntil writes').2 := by
  induction writes generalizing g g' writes' with
  | nil =>
    obtain rfl := List.map_eq_nil_iff.mp h.symm
    rfl
  | cons w rest ih =>
    obtain ⟨w', rest', rfl, hhead, hrest⟩ := List.map_eq_cons_iff.mp h.symm
    cases w with
    | error error =>
      obtain rfl := map_eq_error_iff.mp hhead
      rfl
    | ok write =>
      obtain ⟨write', rfl, -⟩ := map_eq_ok_iff.mp hhead
      change ((g.set write.1 write.2).setUntil rest).2 =
        ((g'.set write'.1 write'.2).setUntil rest').2
      exact ih hrest.symm

namespace Layout

/-- The places of one row of cells. -/
def rowPlaces (anchor : Cell) (row width : Nat) : List (Except ReportError Cell) :=
  (List.range width).map fun (col : Nat) => anchor.locate row col

/-- The places of the writes of a row. -/
theorem map_fst_rowWrites (anchor : Cell) (row : Nat) (columns : List String)
    (value : Nat → String → Value) :
    (rowWrites anchor row columns value).map (·.map Prod.fst) =
      rowPlaces anchor row columns.length := by
  rw [rowPlaces, List.range_eq_range', ← List.zipIdx_map_snd 0 columns, rowWrites, List.map_map,
    List.map_map]
  refine List.map_congr_left fun e _ => ?_
  simp only [Function.comp_apply]
  cases anchor.locate row e.2 <;> rfl

/-- Where a report is written depends on the number of its rows only. -/
theorem map_fst_writes {anchors : Anchors} {columns : List String} {rows : List PlannedRow} :
    (writes anchors columns rows).map (·.map Prod.fst) =
      rowPlaces anchors.headerStart 0 columns.length ++
        (List.range rows.length).flatMap fun index =>
          rowPlaces anchors.dataStart index columns.length := by
  rw [List.range_eq_range', ← List.zipIdx_map_snd 0 rows, List.flatMap_map, writes, List.map_append,
    map_fst_rowWrites, List.map_flatMap]
  simp only [map_fst_rowWrites]

/-- As many rows have the same rectangle, or the same error. -/
theorem snd_render_eq {template : Grid} {columns : List String} {groups groups' : List (List Record)}
    (h : (PlannedRow.plan groups).length = (PlannedRow.plan groups').length) :
    (render template columns groups).2 = (render template columns groups').2 := by
  unfold render
  cases template.anchors with
  | error error => rfl
  | ok anchors =>
    cases columns.find? fun c => !Tag.isEncodable c with
    | some column => rfl
    | none =>
      have hextent : extent anchors columns (PlannedRow.plan groups) =
          extent anchors columns (PlannedRow.plan groups') := by
        rw [extent, h, extent]
      have hwritten :
          (template.setUntil (writes anchors columns (PlannedRow.plan groups))).2 =
            (template.setUntil (writes anchors columns (PlannedRow.plan groups'))).2 :=
        Grid.snd_setUntil (by rw [map_fst_writes, map_fst_writes, h])
      dsimp only
      rcases hrun : template.setUntil (writes anchors columns (PlannedRow.plan groups)) with
        ⟨g, result⟩
      rcases hrun' : template.setUntil (writes anchors columns (PlannedRow.plan groups')) with
        ⟨g', result'⟩
      rw [hrun, hrun'] at hwritten
      obtain rfl : result = result' := hwritten
      cases result with
      | error error => rfl
      | ok done => exact hextent

/-- Rows that differ in hidden texts are laid out to the same masked grid. -/
theorem Rendered.masked_eq {template g g' : Grid} {anchors : Anchors} {columns : List String}
    {column : String} {rows rows' : List PlannedRow} {extent : Extent}
    (h : Rendered template anchors columns rows g extent)
    (h' : Rendered template anchors columns rows' g' extent)
    (hrows : rows.map (PlannedRow.masked columns column) =
      rows'.map (PlannedRow.masked columns column)) : g.masked = g'.masked := by
  refine Grid.masked_eq fun c => ?_
  by_cases hc : Elsewhere extent anchors columns c
  · rw [h.outside hc, h'.outside hc]
  · cases hcontains : extent.contains c with
    | true =>
      obtain ⟨row, index, name, col, hrow, hname, hat, hget⟩ := h.exists_planned hcontains
      obtain ⟨row', hrow', hmasked⟩ : ∃ row', rows'[index]? = some row' ∧
          row'.masked columns column = row.masked columns column := by
        have hboth := congrArg (·[index]?) hrows
        simp only [List.getElem?_map, hrow, Option.map_some] at hboth
        exact Option.map_eq_some_iff.mp hboth.symm
      rw [hget, h'.planned hrow' hname hat, ← PlannedRow.masked_cellValue row, ← hmasked,
        PlannedRow.masked_cellValue row']
    | false =>
      simp only [Elsewhere, hcontains, true_and, Classical.not_forall, Classical.not_not] at hc
      obtain ⟨col, hcol, hat⟩ := hc
      have hname := List.getElem?_eq_getElem hcol
      rw [h.header hname hat hcontains, h'.header hname hat hcontains]

end Layout

namespace Assembler

variable {a : Assembler} {template : Grid} {columns : List String} {column : String}
  {groups groups' : List Group}

/-- The rows of groups that differ in hidden texts do so, too. -/
theorem map_masked_plan_eq
    (h : groups.map (Group.masked columns column) = groups'.map (Group.masked columns column)) :
    (PlannedRow.plan (groups.map Group.records)).map (PlannedRow.masked columns column) =
      (PlannedRow.plan (groups'.map Group.records)).map (PlannedRow.masked columns column) := by
  have hrecords (groups : List Group) :
      (groups.map Group.records).map (List.map (Record.masked columns column)) =
        (groups.map (Group.masked columns column)).map Group.records := by
    simp only [List.map_map]
    exact List.map_congr_left fun b _ => (Group.records_masked b).symm
  rw [← PlannedRow.map_masked_plan, ← PlannedRow.map_masked_plan, hrecords, hrecords, h]

/-- Groups that differ in hidden texts are laid out in the same rectangle with the same
resolution, or with the same error. -/
theorem map_snd_compose_eq (hcolumns : columns ≠ [])
    (h : groups.map (Group.masked columns column) = groups'.map (Group.masked columns column)) :
    (a.compose template columns groups).map Prod.snd =
      (a.compose template columns groups').map Prod.snd := by
  have hrows := map_masked_plan_eq h
  have hlength := congrArg List.length hrows
  rw [List.length_map, List.length_map] at hlength
  have hsnd : (Layout.render template columns (groups.map Group.records)).2 =
      (Layout.render template columns (groups'.map Group.records)).2 :=
    Layout.snd_render_eq hlength
  unfold compose
  rcases hrender : Layout.render template columns (groups.map Group.records) with ⟨g, result⟩
  rcases hrender' : Layout.render template columns (groups'.map Group.records) with ⟨g', result'⟩
  rw [hrender, hrender'] at hsnd
  obtain rfl : result = result' := hsnd
  cases result with
  | error error => rfl
  | ok extent =>
    obtain ⟨anchors, hanchors, -, hrendered⟩ := Layout.render_eq_ok hcolumns hrender
    obtain ⟨anchors', hanchors', -, hrendered'⟩ := Layout.render_eq_ok hcolumns hrender'
    obtain rfl := Except.ok.inj (hanchors.symm.trans hanchors')
    have hresolution : Resolution.ofGrid g extent a.kinds = Resolution.ofGrid g' extent a.kinds := by
      rw [← Resolution.ofGrid_masked g, hrendered.masked_eq hrendered' hrows,
        Resolution.ofGrid_masked]
    simp only [Resolution.resolve, hresolution]
    cases Resolution.ofGrid g' extent a.kinds <;> rfl

/-- What an assembly says of the rows of a report: their rectangle, the numbers of groups, and
their aggregates with all formulas and labels. -/
def rowsOf (out : Grid × Outcome) : Extent × Nat × Nat × Resolution :=
  (out.2.extent, out.2.groups, out.2.subtotalledGroups, out.2.resolution)

/-- What a run says of the rows, from the groups on. -/
def groupRows (a : Assembler) (template : Grid) (columns : List String) (groups : List Group) :
    Except ReportError (Extent × Nat × Nat × Resolution) :=
  (a.compose template columns groups).map fun composed =>
    (composed.2.1, groups.length, (groups.filter Group.isSubtotalled).length, composed.2.2)

/-- The rows of a run are those of its groups, once the anchors are found. -/
theorem map_rowsOf_run (records : Records) (placeholders : Placeholders) :
    (a.run template records placeholders).map rowsOf = (do
      let _ ← template.anchors
      let groups ← a.grouper.build records
      a.groupRows template records.columns groups) := by
  unfold run groupRows
  cases template.anchors with
  | error error => rfl
  | ok anchors =>
    cases a.grouper.build records with
    | error error => rfl
    | ok groups =>
      simp only [bind, Except.bind]
      cases a.compose template records.columns groups <;> rfl

/-- Masking keeps the number of larger groups. -/
theorem length_filter_isSubtotalled_masked (groups : List Group) :
    ((groups.map (Group.masked columns column)).filter Group.isSubtotalled).length =
      (groups.filter Group.isSubtotalled).length := by
  have hsize : Group.isSubtotalled ∘ Group.masked columns column = Group.isSubtotalled := by
    funext b
    simp only [Function.comp_apply, Group.isSubtotalled, Group.size_masked]
  rw [List.filter_map, List.length_map, hsize]

/-- Groups that differ in hidden texts have the same rows, or the same error. -/
theorem groupRows_eq (hcolumns : columns ≠ [])
    (h : groups.map (Group.masked columns column) = groups'.map (Group.masked columns column)) :
    a.groupRows template columns groups = a.groupRows template columns groups' := by
  have hlength : groups.length = groups'.length := by
    simpa only [List.length_map] using congrArg List.length h
  have hlarger : (groups.filter Group.isSubtotalled).length =
      (groups'.filter Group.isSubtotalled).length := by
    rw [← length_filter_isSubtotalled_masked groups, h, length_filter_isSubtotalled_masked]
  have hcompose : (a.compose template columns groups).map Prod.snd =
      (a.compose template columns groups').map Prod.snd := map_snd_compose_eq hcolumns h
  rw [groupRows, groupRows, hlength, hlarger]
  cases hrun : a.compose template columns groups with
  | error error =>
    rw [hrun] at hcompose
    rw [map_eq_error_iff.mp hcompose.symm]
  | ok composed =>
    rw [hrun] at hcompose
    obtain ⟨composed', hrun', hsnd⟩ := map_eq_ok_iff.mp hcompose.symm
    rw [hrun']
    simp only [Except.map, hsnd]

/-- Runs over record sets that are the same when masked end with the same rows or the same
error. -/
theorem map_rowsOf_run_eq {s s' : Records} (placeholders : Placeholders)
    (hreads : ¬ a.grouper.Reads column) (h : s.masked column = s'.masked column) :
    (a.run template s placeholders).map rowsOf = (a.run template s' placeholders).map rowsOf := by
  have hcolumns : s.columns = s'.columns := (Records.mk.inj h).1
  have hbuild : (a.grouper.build s).map (List.map (Group.masked s.columns column)) =
      (a.grouper.build s').map (List.map (Group.masked s.columns column)) := by
    rw [← Grouper.build_masked hreads, h, Grouper.build_masked hreads, hcolumns]
  rw [map_rowsOf_run, map_rowsOf_run, ← hcolumns]
  cases hgroups : a.grouper.build s with
  | error error =>
    rw [hgroups] at hbuild
    rw [map_eq_error_iff.mp hbuild.symm]
  | ok groups =>
    rw [hgroups] at hbuild
    obtain ⟨groups', hgroups', hmasked⟩ := map_eq_ok_iff.mp hbuild.symm
    have hrows : a.groupRows template s.columns groups = a.groupRows template s.columns groups' :=
      groupRows_eq (columns_ne_nil_of_build hgroups) hmasked.symm
    rw [hgroups']
    cases template.anchors with
    | error error => rfl
    | ok anchors => exact hrows

/-- Two record sets that differ only in texts of a column that grouping does not read, none of
them read as an aggregate or rejected as one, are assembled alike: either both runs fail with the
same error, or both succeed, and then with the same rectangle, the same numbers of groups and the
same resolution. -/
theorem run_agrees_of_differInTexts {a : Assembler} {template : Grid} {s s' : Records}
    {column : String} (placeholders : Placeholders)
    (hdiffer : s.DifferInTexts Tag.isNoAggregate column s') (hreads : ¬ a.grouper.Reads column) :
    ((∃ out, a.run template s placeholders = .ok out) ↔
      ∃ out', a.run template s' placeholders = .ok out') ∧
    (∀ error, a.run template s placeholders = .error error ↔
      a.run template s' placeholders = .error error) ∧
    ∀ final outcome final' outcome', a.run template s placeholders = .ok (final, outcome) →
      a.run template s' placeholders = .ok (final', outcome') →
        outcome.extent = outcome'.extent ∧ outcome.groups = outcome'.groups ∧
          outcome.subtotalledGroups = outcome'.subtotalledGroups ∧
          outcome.resolution = outcome'.resolution := by
  have hrows : (a.run template s placeholders).map rowsOf =
      (a.run template s' placeholders).map rowsOf :=
    map_rowsOf_run_eq placeholders hreads hdiffer.masked_eq
  refine ⟨⟨fun hex => ?_, fun hex => ?_⟩, fun error => ?_,
    fun final outcome final' outcome' hrun hrun' => ?_⟩
  · obtain ⟨out, hrun⟩ := hex
    rw [hrun] at hrows
    obtain ⟨out', hrun', -⟩ := map_eq_ok_iff.mp hrows.symm
    exact ⟨out', hrun'⟩
  · obtain ⟨out', hrun'⟩ := hex
    rw [hrun'] at hrows
    obtain ⟨out, hrun, -⟩ := map_eq_ok_iff.mp hrows
    exact ⟨out, hrun⟩
  · rw [← map_eq_error_iff (f := rowsOf), hrows, map_eq_error_iff]
  · rw [hrun, hrun'] at hrows
    simpa [Except.map, rowsOf] using hrows

end Assembler

namespace LoneReport

/-- Lone records differ in their notes only. -/
theorem differInTexts {test : String → Bool} {note note' : String} (h : test note = true)
    (h' : test note' = true) : (records note).DifferInTexts test "Note" (records note') := by
  refine ⟨rfl, .cons ⟨rfl, fun i => ?_⟩ .nil⟩
  match i with
  | 0 => exact .inl rfl
  | 1 => exact .inr ⟨rfl, note, note', rfl, rfl, h, h'⟩
  | _ + 2 => exact .inl rfl

/-- The notes are not read by grouping. -/
theorem not_reads_note : ¬ SmallReport.assembler.grouper.Reads "Note" := by
  have hnone : "Note" ∉ [SmallReport.assembler.grouper.rules.lineItem,
      SmallReport.assembler.grouper.rules.startDate,
      SmallReport.assembler.grouper.rules.endDate,
      SmallReport.assembler.grouper.rules.creativeSize] := by
    rw [SmallReport.rules_eq]
    decide
  simpa [Grouper.Reads] using hnone

/-- A note that is rejected as a total stops the run. -/
theorem exists_error_of_rejected_note :
    ∃ error, SmallReport.assembler.run SmallReport.template (records "<total_?>") .empty =
      .error error := by
  have hfails : (SmallReport.assembler.compose SmallReport.template
      (records "<total_?>").columns (groups "<total_?>")).isOk = false := by
    rw [Assembler.compose, SmallReport.kinds_eq]
    decide
  cases hcompose : SmallReport.assembler.compose SmallReport.template
      (records "<total_?>").columns (groups "<total_?>") with
  | error error =>
    exact ⟨error, Assembler.run_of_compose_eq_error .empty SmallReport.anchors_eq (build_eq _)
      hcompose⟩
  | ok composed =>
    rw [hcompose] at hfails
    contradiction

/-- A note that is read as the total of a ratio stops the run, as there are not two columns to its
left. -/
theorem not_exists_run_of_ratio_note :
    ¬ ∃ out, SmallReport.assembler.run SmallReport.template (records "<total_Ad server CTR>")
      .empty = .ok out := by
  intro hex
  obtain ⟨⟨final, outcome⟩, hrun⟩ := hex
  obtain ⟨groups', anchors, laid, resolved, h⟩ := Assembler.run_eq_ok hrun
  obtain rfl := Except.ok.inj ((build_eq _).symm.trans h.build_eq)
  obtain rfl := Except.ok.inj (SmallReport.anchors_eq.symm.trans h.anchors_eq)
  have hat : (SmallReport.cell 1 1).IsAt outcome.extent.first 0 1 := by
    rw [h.rendered.first]
    exact ⟨rfl, rfl⟩
  have hplan : (PlannedRow.plan ((groups "<total_Ad server CTR>").map Group.records))[0]? =
      some (.data ⟨[.text "ORD-1", .text "<total_Ad server CTR>"]⟩) := rfl
  have hname : (records "<total_Ad server CTR>").columns[1]? = some "Note" := rfl
  have hread : Tag.read "<total_Ad server CTR>" = .ok (some (.total "Ad server CTR")) := rfl
  have hkind : SmallReport.assembler.kinds.classify "Ad server CTR" = .ratio := by
    rw [SmallReport.kinds_eq]
    decide
  have htotal : ⟨SmallReport.cell 1 1, "Ad server CTR", .ratio⟩ ∈ outcome.resolution.totals :=
    h.resolves.mem_totals.mpr ⟨⟨_, h.rendered.planned hplan hname hat, hread⟩, hkind.symm⟩
  obtain ⟨_, denominator, -, -, -, hcol, -⟩ := h.resolves.showsRatio_of_total htotal rfl
  have hone : denominator.col + 2 = 1 := hcol
  omega

end LoneReport

namespace Assembler

/-- Of two notes that are no aggregates, the run sees no difference. -/
theorem loneReport_run_agrees :
    (LoneReport.records "plain").DifferInTexts Tag.isNoAggregate "Note"
        (LoneReport.records "<client>") ∧
      ¬ SmallReport.assembler.grouper.Reads "Note" ∧
      ∃ final outcome final' outcome',
        SmallReport.assembler.run SmallReport.template (LoneReport.records "plain") .empty =
          .ok (final, outcome) ∧
        SmallReport.assembler.run SmallReport.template (LoneReport.records "<client>") .empty =
          .ok (final', outcome') ∧
        outcome.resolution = outcome'.resolution := by
  have hdiffer : (LoneReport.records "plain").DifferInTexts Tag.isNoAggregate "Note"
      (LoneReport.records "<client>") :=
    LoneReport.differInTexts (by decide) (by decide)
  obtain ⟨final, outcome, hrun⟩ := LoneReport.exists_run_plain
  obtain ⟨hiff, -, hagree⟩ :=
    run_agrees_of_differInTexts .empty hdiffer LoneReport.not_reads_note
  obtain ⟨⟨final', outcome'⟩, hrun'⟩ := hiff.mp ⟨_, hrun⟩
  exact ⟨hdiffer, LoneReport.not_reads_note, final, outcome, final', outcome', hrun, hrun',
    (hagree final outcome final' outcome' hrun hrun').2.2.2⟩

/-- A note decides whether a run succeeds if it is rejected as an aggregate or read as one. -/
theorem loneReport_runs_differ :
    SmallReport.assembler.kinds.classify "Note" = .other ∧
      ¬ SmallReport.assembler.grouper.Reads "Note" ∧
      (∃ out, SmallReport.assembler.run SmallReport.template (LoneReport.records "plain") .empty =
        .ok out) ∧
      ((LoneReport.records "plain").DifferInTexts (fun _ => true) "Note"
          (LoneReport.records "<total_?>") ∧
        ¬ ∃ out, SmallReport.assembler.run SmallReport.template
          (LoneReport.records "<total_?>") .empty = .ok out) ∧
      ((LoneReport.records "plain").DifferInTexts (fun _ => true) "Note"
          (LoneReport.records "<total_Ad server CTR>") ∧
        ¬ ∃ out, SmallReport.assembler.run SmallReport.template
          (LoneReport.records "<total_Ad server CTR>") .empty = .ok out) := by
  obtain ⟨final, outcome, hrun⟩ := LoneReport.exists_run_plain
  refine ⟨by rw [SmallReport.kinds_eq]; decide, LoneReport.not_reads_note, ⟨_, hrun⟩,
    ⟨LoneReport.differInTexts rfl rfl, fun hex => ?_⟩,
    LoneReport.differInTexts rfl rfl, LoneReport.not_exists_run_of_ratio_note⟩
  obtain ⟨out, hrun⟩ := hex
  obtain ⟨error, herror⟩ := LoneReport.exists_error_of_rejected_note
  rw [hrun] at herror
  contradiction

end Assembler

end SheetReport
