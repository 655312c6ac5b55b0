import SheetReport.Proofs.Report.Success

/-!
# Exactly when a report is assembled

Six conditions decide about a run whose template and records hold no aggregates of their own:
the structural anchors are there, the line item column is there, every record has an identifier,
every column has a tag, the report stays on the sheet, and every ratio has two columns to its
left. They are looked at in this order, and the first that fails gives the error. An undecodable
tag or an ambiguous cell is never among the errors.
-/

namespace SheetReport

/-- Whether each of the structural anchors is in a grid. -/
def Grid.HasAnchors (g : Grid) : Prop :=
  ∀ name ∈ Tag.structural, ∃ c, g.get c = .text (Tag.anchor name).text

/-- Whether every column has a tag. -/
def Records.Encodes (s : Records) : Prop := ∀ name ∈ s.columns, Tag.isEncodable name = true

namespace Assembler

/-- Whether the line item column is there. -/
def HasLineItem (a : Assembler) (records : Records) : Prop :=
  a.grouper.rules.lineItem ∈ records.columns

/-- Whether every record has an identifier. -/
def IdentifiesAll (a : Assembler) (records : Records) : Prop :=
  ∀ r ∈ records.records, a.grouper.Identifies (a.grouper.lineItemText records r)

/-- Whether the headers and the rows of the report stay on the sheet. -/
def FitsSheet (a : Assembler) (template : Grid) (records : Records) : Prop :=
  ∀ anchors groups, template.anchors = .ok anchors → a.grouper.build records = .ok groups →
    Layout.Fits anchors records.columns (PlannedRow.plan (groups.map Group.records))

/-- Whether every ratio falls on the third column of the sheet or later. -/
def RatiosFit (a : Assembler) (template : Grid) (records : Records) : Prop :=
  ∀ anchors, template.anchors = .ok anchors →
    Layout.RatiosFit a.kinds records.columns anchors.dataStart

variable {a : Assembler} {template : Grid} {records : Records}

/-- The stages before the layout succeed under the first three conditions. -/
theorem exists_anchors_groups (hanchors : template.HasAnchors) (hlineItem : a.HasLineItem records)
    (hidentifies : a.IdentifiesAll records) :
    ∃ anchors groups, template.anchors = .ok anchors ∧ a.grouper.build records = .ok groups := by
  obtain ⟨anchors, hfound⟩ := Grid.exists_anchors_iff.mpr hanchors
  obtain ⟨groups, hgroups⟩ := (Grouper.exists_build_eq_ok_iff hlineItem).mpr hidentifies
  exact ⟨anchors, groups, hfound, hgroups⟩

/-- The anchors and the groups of a run are determined, so a report fits for all of them if it
fits for some. -/
theorem fitsSheet_iff {anchors : Anchors} {groups : List Group}
    (hanchors : template.anchors = .ok anchors) (hgroups : a.grouper.build records = .ok groups) :
    a.FitsSheet template records ↔
      Layout.Fits anchors records.columns (PlannedRow.plan (groups.map Group.records)) := by
  refine ⟨fun h => h anchors groups hanchors hgroups, fun h anchors' groups' ha hg => ?_⟩
  obtain rfl := Except.ok.inj (hanchors.symm.trans ha)
  obtain rfl := Except.ok.inj (hgroups.symm.trans hg)
  exact h

/-- The anchors of a run are determined, so ratios fit for all of them if they fit for some. -/
theorem ratiosFit_iff {anchors : Anchors} (hanchors : template.anchors = .ok anchors) :
    a.RatiosFit template records ↔
      Layout.RatiosFit a.kinds records.columns anchors.dataStart := by
  refine ⟨fun h => h anchors hanchors, fun h anchors' ha => ?_⟩
  obtain rfl := Except.ok.inj (hanchors.symm.trans ha)
  exact h

/-- The error of a run by the first condition that fails: in each case the earlier ones hold. -/
inductive FirstFailure (a : Assembler) (template : Grid) (records : Records) :
    ReportError → Prop where
  | anchors (names : List String) (h : ¬ template.HasAnchors) :
      FirstFailure a template records (.missingAnchor names)
  | lineItem (hanchors : template.HasAnchors) (h : ¬ a.HasLineItem records) :
      FirstFailure a template records (.missingColumn a.grouper.rules.lineItem)
  | identifier (hanchors : template.HasAnchors) (hlineItem : a.HasLineItem records) {i : Nat}
      {r : Record} (hr : records.records[i]? = some r)
      (h : ¬ a.grouper.Identifies (a.grouper.lineItemText records r)) :
      FirstFailure a template records (.unidentified i (a.grouper.lineItemText records r))
  | encoding (hanchors : template.HasAnchors) (hlineItem : a.HasLineItem records)
      (hidentifies : a.IdentifiesAll records) {column : String}
      (hcolumn : column ∈ records.columns) (h : Tag.isEncodable column = false) :
      FirstFailure a template records (.unencodableColumn column)
  | sheet (hanchors : template.HasAnchors) (hlineItem : a.HasLineItem records)
      (hidentifies : a.IdentifiesAll records) (hencodes : records.Encodes)
      (h : ¬ a.FitsSheet template records) (anchor : Cell) (down right : Int) :
      FirstFailure a template records (.outOfBounds anchor down right)
  | ratio (hanchors : template.HasAnchors) (hlineItem : a.HasLineItem records)
      (hidentifies : a.IdentifiesAll records) (hencodes : records.Encodes)
      (hfits : a.FitsSheet template records) (h : ¬ a.RatiosFit template records)
      (anchor : Cell) (down right : Int) :
      FirstFailure a template records (.outOfBounds anchor down right)

/-- Under the first three conditions, the last three decide. -/
theorem run_cases_of_groups (placeholders : Placeholders) (hanchors : template.HasAnchors)
    (hlineItem : a.HasLineItem records)
    (hidentifies : a.IdentifiesAll records)
    (htemplate : template.Lacks Value.resemblesAggregate)
    (hrecords : records.Lacks Value.resemblesAggregate) :
    ((∃ out, a.run template records placeholders = .ok out) ∧
        records.Encodes ∧ a.FitsSheet template records ∧ a.RatiosFit template records) ∨
      ∃ error, a.run template records placeholders = .error error ∧
        a.FirstFailure template records error := by
  obtain ⟨anchors, groups, hfound, hgroups⟩ :=
    exists_anchors_groups hanchors hlineItem hidentifies
  have hfitsIff := fitsSheet_iff hfound hgroups
  have hratiosIff : a.RatiosFit template records ↔
      Layout.RatiosFit a.kinds records.columns anchors.dataStart := ratiosFit_iff hfound
  by_cases hencodes : records.Encodes
  · by_cases hfits : a.FitsSheet template records
    · by_cases hratios : a.RatiosFit template records
      · exact .inl ⟨exists_run_eq_ok placeholders hfound hgroups hencodes (hfitsIff.mp hfits)
          (hratiosIff.mp hratios) htemplate hrecords, hencodes, hfits, hratios⟩
      · obtain ⟨anchor, down, right, hrun⟩ := run_of_not_ratiosFit placeholders
          hfound hgroups hencodes (hfitsIff.mp hfits) (fun h => hratios (hratiosIff.mpr h))
          htemplate hrecords
        exact .inr ⟨_, hrun,
          .ratio hanchors hlineItem hidentifies hencodes hfits hratios anchor down right⟩
    · obtain ⟨anchor, down, right, hrun⟩ := run_of_not_fits placeholders
        hfound hgroups hencodes fun h => hfits (hfitsIff.mpr h)
      exact .inr ⟨_, hrun,
        .sheet hanchors hlineItem hidentifies hencodes hfits anchor down right⟩
  · obtain ⟨column, hcolumn, hbad, hrun⟩ := run_of_not_isEncodable placeholders
      hfound hgroups hencodes
    exact .inr ⟨_, hrun, .encoding hanchors hlineItem hidentifies hcolumn hbad⟩

/-- A run succeeds and all six conditions hold, or it fails for the first that does not. -/
theorem run_cases (placeholders : Placeholders)
    (htemplate : template.Lacks Value.resemblesAggregate)
    (hrecords : records.Lacks Value.resemblesAggregate) :
    ((∃ out, a.run template records placeholders = .ok out) ∧
        template.HasAnchors ∧ a.HasLineItem records ∧ a.IdentifiesAll records ∧
          records.Encodes ∧ a.FitsSheet template records ∧ a.RatiosFit template records) ∨
      ∃ error, a.run template records placeholders = .error error ∧
        a.FirstFailure template records error := by
  by_cases hanchors : template.HasAnchors
  · obtain ⟨anchors, hfound⟩ := Grid.exists_anchors_iff.mpr hanchors
    by_cases hlineItem : a.HasLineItem records
    · by_cases hidentifies : a.IdentifiesAll records
      · rcases run_cases_of_groups placeholders hanchors hlineItem hidentifies
          htemplate hrecords with ⟨hrun, hrest⟩ | hfail
        · exact .inl ⟨hrun, hanchors, hlineItem, hidentifies, hrest⟩
        · exact .inr hfail
      · obtain ⟨i, r, hr, hnot, hbuild⟩ := Grouper.build_of_not_identifies hlineItem hidentifies
        exact .inr ⟨_, run_of_build_eq_error placeholders hfound hbuild,
          .identifier hanchors hlineItem hr hnot⟩
    · exact .inr ⟨_, run_of_build_eq_error placeholders hfound (Grouper.build_of_notMem hlineItem),
        .lineItem hanchors hlineItem⟩
  · obtain ⟨names, hrun⟩ := run_of_no_anchors placeholders
      fun hfound => hanchors (Grid.exists_anchors_iff.mp hfound)
    exact .inr ⟨_, hrun, .anchors names hanchors⟩

/-- If a condition fails, not all of them hold. -/
theorem FirstFailure.not_accepted {error : ReportError}
    (h : a.FirstFailure template records error) :
    ¬ (template.HasAnchors ∧ a.HasLineItem records ∧ a.IdentifiesAll records ∧
      records.Encodes ∧ a.FitsSheet template records ∧ a.RatiosFit template records) := by
  intro hboth
  obtain ⟨hanchors, hlineItem, hidentifies, hencodes, hfits, hratios⟩ := hboth
  cases h with
  | anchors names h => exact h hanchors
  | lineItem _ h => exact h hlineItem
  | identifier _ _ hr h => exact h (hidentifies _ (List.mem_of_getElem? hr))
  | encoding _ _ _ hcolumn h => simp [hencodes _ hcolumn] at h
  | sheet _ _ _ _ h => exact h hfits
  | ratio _ _ _ _ _ h => exact h hratios

/-- A run succeeds exactly under all six conditions; otherwise the first that fails gives the
error. Tags that cannot be read and ambiguous cells are never reported. -/
theorem run_succeeds_iff_and_first_failure {placeholders : Placeholders}
    (htemplate : template.Lacks Value.resemblesAggregate)
    (hrecords : records.Lacks Value.resemblesAggregate) :
    ((∃ out, a.run template records placeholders = .ok out) ↔
      template.HasAnchors ∧ a.HasLineItem records ∧ a.IdentifiesAll records ∧
        records.Encodes ∧ a.FitsSheet template records ∧ a.RatiosFit template records) ∧
    (∀ error, a.run template records placeholders = .error error →
      a.FirstFailure template records error) ∧
    (∀ cell error, a.run template records placeholders ≠ .error (.undecodableTag cell error)) ∧
    ∀ cell first second,
      a.run template records placeholders ≠ .error (.ambiguousCell cell first second) := by
  have hfailure (error : ReportError)
      (herror : a.run template records placeholders = .error error) :
      a.FirstFailure template records error := by
    rcases run_cases placeholders htemplate hrecords with
      ⟨⟨out, hout⟩, -⟩ | ⟨error', hrun, hfail⟩
    · exact absurd (hout.symm.trans herror) (by simp)
    · rwa [Except.error.inj (herror.symm.trans hrun)]
  refine ⟨⟨?_, ?_⟩, hfailure, ?_, ?_⟩
  · intro hex
    obtain ⟨out, hout⟩ := hex
    rcases run_cases placeholders htemplate hrecords with
      ⟨-, hall⟩ | ⟨error, hrun, -⟩
    · exact hall
    · exact absurd (hout.symm.trans hrun) (by simp)
  · intro hall
    rcases run_cases placeholders htemplate hrecords with
      ⟨hrun, -⟩ | ⟨error, -, hfail⟩
    · exact hrun
    · exact absurd hall hfail.not_accepted
  · intro cell error herror
    cases hfailure _ herror
  · intro cell first second herror
    cases hfailure _ herror

/-- The small report holds no aggregates of its own, meets all conditions, and so is assembled. -/
theorem smallReport_run_succeeds :
    SmallReport.template.Lacks Value.resemblesAggregate ∧
      SmallReport.records.Lacks Value.resemblesAggregate ∧
        ∃ out, SmallReport.assembler.run SmallReport.template SmallReport.records
          SmallReport.placeholders = .ok out := by
  have htemplate : SmallReport.template.Lacks Value.resemblesAggregate := by decide +kernel
  have hrecords : SmallReport.records.Lacks Value.resemblesAggregate := by decide +kernel
  have hlineItem : SmallReport.assembler.HasLineItem SmallReport.records := by
    unfold HasLineItem
    decide +kernel
  have hidentifies : SmallReport.assembler.IdentifiesAll SmallReport.records :=
    (Grouper.exists_build_eq_ok_iff hlineItem).mp ⟨_, SmallReport.build_eq⟩
  have hfits := (fitsSheet_iff SmallReport.anchors_eq SmallReport.build_eq).mpr SmallReport.fits
  have hratios := (ratiosFit_iff SmallReport.anchors_eq).mpr SmallReport.ratiosFit
  exact ⟨htemplate, hrecords, (run_succeeds_iff_and_first_failure htemplate hrecords).1.mpr
    ⟨Grid.exists_anchors_iff.mp ⟨_, SmallReport.anchors_eq⟩, hlineItem, hidentifies,
      SmallReport.encodes, hfits, hratios⟩⟩

end Assembler

end SheetReport
