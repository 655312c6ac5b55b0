import SheetReport.Proofs.Report.Success

/-!
# What clearing leaves

Whatever a run is given, its last stage clears every cell that looks like a tag, so a finished
report has none and is no template any more: the structural anchors look like tags too. Nothing
is assumed of the texts of records, labels and placeholders.

Main statement: `finished_report_has_no_tags`.
-/

namespace SheetReport

namespace Grid

/-- Whether no cell looks like a tag. -/
def HasNoTags (g : Grid) : Prop := ∀ c, Tag.looksLikeTag (g.get c).print = false

variable {g : Grid}

/-- A grid without tags has no anchors. -/
theorem HasNoTags.findAnchor?_eq_none (h : g.HasNoTags) {name : String}
    (hname : Tag.isAnchorName name = true) : g.findAnchor? name = none := by
  cases hfind : g.findAnchor? name with
  | none => rfl
  | some c =>
    have hlooks := h c
    rw [(isFirstAnchor_of_findAnchor? hfind).1, Value.print,
      Tag.looksLikeTag_text_anchor hname] at hlooks
    contradiction

/-- Of a grid without tags, all structural anchors are missing. -/
theorem HasNoTags.anchors_eq (h : g.HasNoTags) :
    g.anchors = .error (.missingAnchor Tag.structural) := by
  have hstart : g.findAnchor? Tag.dataStart = none := h.findAnchor?_eq_none (by decide)
  have hend : g.findAnchor? Tag.dataEnd = none := h.findAnchor?_eq_none (by decide)
  have hheader : g.findAnchor? Tag.headerStart = none := h.findAnchor?_eq_none (by decide)
  rw [anchors, hstart, hend, hheader]
  simp [Tag.structural, hstart, hend, hheader]

end Grid

namespace Markup

variable {g : Grid}

/-- What is left to clear are the cells that look like a tag, with their texts. -/
theorem mem_remaining_iff {c : Cell} {text : String} :
    (c, text) ∈ remaining g ↔
      Tag.looksLikeTag (g.get c).print = true ∧ text = (g.get c).print := by
  simp only [remaining, List.mem_map, List.mem_filter, Prod.mk.injEq]
  constructor
  · intro hex
    obtain ⟨⟨c', v⟩, ⟨he, hlooks⟩, rfl, rfl⟩ := hex
    rw [(Grid.mem_entries.mp he).1]
    exact ⟨hlooks, rfl⟩
  · intro hboth
    obtain ⟨hlooks, rfl⟩ := hboth
    have hne : g.get c ≠ .empty := by
      intro hempty
      rw [hempty] at hlooks
      contradiction
    exact ⟨(c, g.get c), ⟨Grid.mem_entries.mpr ⟨rfl, hne⟩, hlooks⟩, rfl, rfl⟩

/-- The cells to clear are listed row by row, each once. -/
theorem pairwise_remaining (g : Grid) :
    (remaining g).Pairwise fun d e => d.1.index < e.1.index :=
  List.pairwise_map.mpr (g.pairwise_entries.filter _)

/-- After clearing, nothing looks like a tag. -/
theorem hasNoTags_strip (g : Grid) : (strip g).1.HasNoTags := by
  intro c
  rw [get_strip]
  split
  · rfl
  · rename_i hlooks
    exact Bool.eq_false_iff.mpr hlooks

/-- A cell is cleared exactly when it was occupied and is empty now. -/
theorem looksLikeTag_iff_cleared {c : Cell} :
    Tag.looksLikeTag (g.get c).print = true ↔ g.get c ≠ .empty ∧ (strip g).1.get c = .empty := by
  rw [get_strip]
  constructor
  · intro hlooks
    refine ⟨fun hempty => ?_, by rw [if_pos hlooks]⟩
    rw [hempty] at hlooks
    contradiction
  · intro hboth
    obtain ⟨hne, hget⟩ := hboth
    refine Classical.byContradiction fun hlooks => hne ?_
    rwa [if_neg hlooks] at hget

/-- Where nothing looks like a tag, there is nothing to clear. -/
theorem strip_eq_self (h : g.HasNoTags) : strip g = (g, []) := by
  have hnone : remaining g = [] := by
    rw [List.eq_nil_iff_forall_not_mem]
    intro e he
    have hlooks := (mem_remaining_iff.mp he).1
    rw [h e.1] at hlooks
    contradiction
  rw [strip, hnone]
  rfl

end Markup

namespace Assembler

variable {a : Assembler} {template final : Grid} {records : Records}
  {placeholders : Placeholders} {outcome : Outcome}

/-- A grid takes a report exactly when there is one. -/
theorem runIn_eq_ok_iff : a.runIn template records placeholders = (final, .ok outcome) ↔
    a.run template records placeholders = .ok (final, outcome) := by
  unfold runIn
  cases a.run template records placeholders <;> simp [Prod.ext_iff]

/-- A run on a grid without tags fails and leaves it as it is. -/
theorem runIn_of_hasNoTags (h : template.HasNoTags) :
    a.runIn template records placeholders = (template, .error (.missingAnchor Tag.structural)) := by
  rw [runIn, run, h.anchors_eq]
  rfl

/-- The last stage of a run clears the grid in which the placeholders were filled. -/
theorem exists_filled_of_run (h : a.run template records placeholders = .ok (final, outcome)) :
    ∃ groups resolved filled, a.grouper.build records = .ok groups ∧
      a.compose template records.columns groups =
        .ok (resolved, outcome.extent, outcome.resolution) ∧
      Markup.fill resolved placeholders = (filled, outcome.placeholders) ∧
      Markup.strip filled = (final, outcome.stripped) := by
  unfold run at h
  obtain ⟨anchors, -, h⟩ := bind_eq_ok_iff.mp h
  obtain ⟨groups, hgroups, h⟩ := bind_eq_ok_iff.mp h
  obtain ⟨⟨resolved, extent, resolution⟩, hcompose, h⟩ := bind_eq_ok_iff.mp h
  obtain ⟨rfl, rfl⟩ := Prod.mk.inj (Except.ok.inj h)
  exact ⟨groups, resolved, _, hgroups, hcompose, rfl, rfl⟩

/-- After a run no cell looks like a tag, and what was cleared is told row by row with its former
text. Clearing again changes nothing, and no run takes the report for a template. -/
theorem finished_report_has_no_tags
    (hrun : a.runIn template records placeholders = (final, .ok outcome)) :
    (∀ c, Tag.looksLikeTag (final.get c).print = false) ∧
      (∃ groups resolved filled, a.grouper.build records = .ok groups ∧
        a.compose template records.columns groups =
          .ok (resolved, outcome.extent, outcome.resolution) ∧
        Markup.fill resolved placeholders = (filled, outcome.placeholders) ∧
        (outcome.stripped.Pairwise fun d e => d.1.index < e.1.index) ∧
        (∀ c text, (c, text) ∈ outcome.stripped ↔
          filled.get c ≠ .empty ∧ final.get c = .empty ∧ text = (filled.get c).print) ∧
        ∀ c, c ∉ outcome.stripped.map Prod.fst → final.get c = filled.get c) ∧
      Markup.strip final = (final, []) ∧
      ∀ (other : Assembler) (records' : Records) (placeholders' : Placeholders),
        other.runIn final records' placeholders' =
          (final, .error (.missingAnchor [Tag.dataStart, Tag.dataEnd, Tag.headerStart])) := by
  obtain ⟨groups, resolved, filled, hgroups, hcompose, hfill, hstrip⟩ :=
    exists_filled_of_run (runIn_eq_ok_iff.mp hrun)
  obtain ⟨rfl, hstripped⟩ : (Markup.strip filled).1 = final ∧
      Markup.remaining filled = outcome.stripped := Prod.mk.inj hstrip
  have hnone : (Markup.strip filled).1.HasNoTags := Markup.hasNoTags_strip filled
  refine ⟨hnone, ⟨groups, resolved, filled, hgroups, hcompose, hfill, ?_, ?_, ?_⟩,
    Markup.strip_eq_self hnone, fun other records' placeholders' => runIn_of_hasNoTags hnone⟩
  · rw [← hstripped]
    exact Markup.pairwise_remaining filled
  · intro c text
    rw [← hstripped, Markup.mem_remaining_iff, Markup.looksLikeTag_iff_cleared, and_assoc]
  · intro c hc
    have hlooks : ¬ Tag.looksLikeTag (filled.get c).print = true := fun hlooks =>
      hc (hstripped ▸ List.mem_map_of_mem (Markup.mem_remaining_iff.mpr ⟨hlooks, rfl⟩))
    rw [Markup.get_strip, if_neg hlooks]

/-- The run of a block report clears five tags, and a second run on it fails. -/
theorem blockReport_has_no_tags :
    SmallReport.assembler.runIn BlockReport.template BlockReport.records
        BlockReport.placeholders = (BlockReport.final, .ok BlockReport.outcome) ∧
      BlockReport.outcome.stripped =
        [(SmallReport.cell 4 0, "<total_Line Item>"), (SmallReport.cell 4 1, "<total_Note>"),
          (SmallReport.cell 5 0, "<total_bar>"), (SmallReport.cell 5 1, "<total_bar>"),
          (SmallReport.cell 5 2, "<total_bar>")] ∧
      (∀ c, Tag.looksLikeTag (BlockReport.final.get c).print = false) ∧
      SmallReport.assembler.runIn BlockReport.final BlockReport.records
          BlockReport.placeholders =
        (BlockReport.final,
          .error (.missingAnchor [Tag.dataStart, Tag.dataEnd, Tag.headerStart])) := by
  have hrun : SmallReport.assembler.runIn BlockReport.template BlockReport.records
      BlockReport.placeholders = (BlockReport.final, .ok BlockReport.outcome) :=
    runIn_eq_ok_iff.mpr BlockReport.run_eq
  obtain ⟨hnone, -, -, hfail⟩ := finished_report_has_no_tags hrun
  exact ⟨hrun, by decide, hnone, hfail _ _ _⟩

end Assembler

end SheetReport
