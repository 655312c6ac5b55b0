import SheetReport.Proofs.Style.GroupMerges
import SheetReport.Proofs.Workbook.RoundTrip

/-!
# The formats that dates are stored with

A plan knows the dates inside of the report, and a single cell is asked for its value once more when
it is written, so a date of its own has the date format of the report wherever it stands. A merged
range is not asked: it takes the date format from the plan, for any date of the report among its
cells. A date at its first cell outside of the report goes unnoticed and keeps the number format of
the template.

Main statement: `date_formats`.
-/

namespace SheetReport

/-- Combined styles have the date format if one of them has it. -/
theorem CellStyle.date_combineAll (styles : List CellStyle) :
    (combineAll styles).date = styles.any (·.date) := by
  have hfold (s : CellStyle) (l : List CellStyle) :
      (l.foldl combine s).date = (s.date || l.any (·.date)) := by
    induction l generalizing s with
    | nil => simp
    | cons first rest ih => rw [List.foldl_cons, ih, List.any_cons, ← Bool.or_assoc, combine]
  rw [combineAll, hfold, Bool.false_or]

namespace StylePlan

variable {p : StylePlan} {m : Extent} {g : Grid} {o : Outcome} {rules : StyleRules}
  {formats : SheetFormats} {c bottom : Cell}

/-- A merged range has the date format if one of its cells has it. -/
theorem date_mergedStyle : (p.mergedStyle m).date = true ↔
    ∃ c, m.contains c = true ∧ (p.styleOf c).date = true := by
  simp only [mergedStyle, CellStyle.date_combineAll, List.any_map, List.any_filter,
    List.any_eq_true, Bool.and_eq_true, Function.comp_apply]
  constructor
  · intro hex
    obtain ⟨⟨c, s⟩, hmem, hcontains, hdate⟩ := hex
    refine ⟨c, hcontains, ?_⟩
    rw [styleOf, OrderedMap.get?_eq_some_iff.mpr hmem]
    exact hdate
  · intro hex
    obtain ⟨c, hcontains, hdate⟩ := hex
    unfold styleOf at hdate
    cases hget : p.styles.get? c with
    | none =>
      rw [hget] at hdate
      contradiction
    | some s =>
      rw [hget] at hdate
      exact ⟨(c, s), OrderedMap.get?_eq_some_iff.mp hget, hcontains, hdate⟩

/-- A merged range of a plan has the date format if it contains a date of the report. -/
theorem date_mergedStyle_build (hnodup : (o.stripped.map Prod.fst).Nodup) :
    ((build g o rules formats).mergedStyle m).date = true ↔
      ∃ c, m.contains c = true ∧ o.extent.contains c = true ∧ (g.get c).isDate = true := by
  have hdate (c : Cell) : ((build g o rules formats).styleOf c).date = true ↔
      o.extent.contains c = true ∧ (g.get c).isDate = true := by
    obtain ⟨border, vertical, hstyle⟩ := exists_styleOf_build g rules formats hnodup c
    rw [hstyle, Bool.and_eq_true]
  simp only [date_mergedStyle, hdate]

end StylePlan

/-- A custom number format is not stored as a predefined one. -/
theorem StyledFormat.number?_custom_ne_builtin (code : String) (index : Nat) :
    number? (some (.custom code)) ≠ some (.builtin index) := by
  unfold number?
  split
  · simp
  · simp
  · simp
  · rename_i f _ _ heq
    obtain rfl := Option.some.inj heq
    simp

namespace StoredSheet

variable {g : Grid} {p : StylePlan} {c c' : Cell} {stored : StoredCell}

/-- A date is written with the format of its cell. -/
theorem format_of_writeValue? {cell : StoredCell} {v : Value} (hdate : v.isDate = true)
    (h : writeValue? cell v = some stored) : stored.format = cell.format := by
  cases v <;> simp only [Value.isDate, Bool.false_eq_true] at hdate
  all_goals
    obtain rfl := Option.some.inj h
    rfl

/-- A date of its own has the date format. -/
theorem number_of_single? (hdate : (g.get c).isDate = true)
    (h : single? g p c = some (c', stored)) :
    stored.format.number = StyledFormat.number? (some (.custom p.dateFormat)) := by
  unfold single? at h
  split at h
  · obtain ⟨stored', hwrite, heq⟩ := Option.map_eq_some_iff.mp h
    obtain ⟨-, rfl⟩ := Prod.mk.inj heq
    rw [format_of_writeValue? hdate hwrite]
    simp [StyledFormat.cell, StyledFormat.format, hdate]
  · contradiction

/-- The number format of a merged range: the date format if one of its cells has it, and otherwise
that of the template in its first cell. -/
def mergedNumber? (p : StylePlan) (m : Extent) : Option NumberFormat :=
  StyledFormat.number?
    (if (p.mergedStyle m).date then some (.custom p.dateFormat)
    else (p.baseOf? m.first).bind (·.number))

/-- A date at the first cell of a merged range has the number format of the range. -/
theorem number_of_merged? {m : Extent} {cells : List (Cell × StoredCell)}
    (hdate : (g.get m.first).isDate = true) (h : merged? g p m = some cells)
    (hmem : (m.first, stored) ∈ cells) : stored.format.number = mergedNumber? p m := by
  obtain ⟨first, hwrite, rfl⟩ := Option.map_eq_some_iff.mp h
  obtain ⟨c', -, heq⟩ := List.mem_map.mp hmem
  obtain ⟨rfl, rfl⟩ := Prod.mk.inj heq
  rw [if_pos rfl, format_of_writeValue? hdate hwrite, mergedNumber?, mergedCell]
  cases h : p.baseOf? m.first <;> simp [StyledFormat.cell, StyledFormat.format]

/-- Renumbering leaves all number formats but predefined ones of high numbers. -/
theorem number_renumber (codes : List String) (c : StoredCell)
    (h : ∀ index, c.format.number = some (.builtin index) → index < firstCustom) :
    (renumber codes c).format.number = c.format.number := by
  unfold renumber
  split
  · rename_i index hnumber
    rw [if_neg (Nat.not_le.mpr (h index hnumber))]
  · rfl

variable {name : String} {isPicture : String → Bool} {sheet : StoredSheet}

/-- A date is stored wherever it is the first cell of all merged ranges that contain it: with the
date format if it stands alone, and with the number format of the range otherwise. -/
theorem exists_stored_date (h : ofReport? name g p isPicture = some sheet)
    (hdate : (g.get c).isDate = true) (hfirst : ∀ m ∈ p.merges, m.contains c = true → m.first = c) :
    ∃ codes written, sheet.cells.get? c = some (renumber codes written) ∧
      written.content = (g.get c).content ∧
      ((∀ m ∈ p.merges, m.contains c = false) ∧
          written.format.number = StyledFormat.number? (some (.custom p.dateFormat)) ∨
        ∃ m ∈ p.merges, m.first = c ∧ m.contains c = true ∧
          (∀ m' ∈ p.merges, m'.contains c = true → m' = m) ∧
          written.format.number = mergedNumber? p m) := by
  obtain ⟨singles, merged, hsingles, hmerged, hdisjoint, hcells⟩ := exists_of_ofReport? h
  have hcontent := contentAt_of_ofReport? h hfirst
  cases hget : sheet.cells.get? c with
  | none =>
    rw [contentAt, hget] at hcontent
    cases hv : g.get c <;> rw [hv] at hdate hcontent <;> contradiction
  | some stored =>
    rw [contentAt, hget, Option.map_some, Option.getD_some] at hcontent
    rw [hcells] at hget
    obtain ⟨written, hmem, rfl⟩ := exists_of_get?_storedCells hget
    rw [content_renumber] at hcontent
    refine ⟨_, written, rfl, hcontent, ?_⟩
    rcases List.mem_append.mp hmem with hsingle | hrange
    · obtain ⟨c', hc', hwrite⟩ := (mem_of_mapM_eq_some hsingles _).mp hsingle
      obtain ⟨rfl, -⟩ := content_of_single? hwrite
      have hnone := (List.mem_filter.mp hc').2
      rw [Option.isNone_iff_eq_none, StylePlan.mergeAt?, List.find?_eq_none] at hnone
      exact .inl ⟨fun m hm => by simpa using hnone m hm, number_of_single? hdate hwrite⟩
    · obtain ⟨cells, hin, hstored⟩ := List.mem_flatten.mp hrange
      obtain ⟨m, hm, hwrite⟩ := (mem_of_mapM_eq_some hmerged _).mp hin
      have hcontains := (content_of_merged? hwrite hstored).1
      obtain rfl := hfirst m hm hcontains
      exact .inr ⟨m, hm, rfl, hcontains, fun m' hm' hcontains' =>
        eq_of_areDisjoint hdisjoint hm' hm hcontains' hcontains,
        number_of_merged? hdate hwrite hstored⟩

end StoredSheet

namespace DateReport

open SmallReport (cell assembler)
open BlockReport (template records laid resolution extent)

/-- A date for the placeholder of the order, in the report with a block. -/
def placeholders : Placeholders := OrderedMap.empty.insert "order_id" (.date ⟨20000⟩)

/-- The resolved grid with the date filled in, and its cell. -/
def filled : Grid × List (Cell × String) :=
  Markup.fill (laid.setAll resolution.writes) placeholders

/-- What the assembly says. -/
def outcome : Outcome :=
  { BlockReport.outcome with
    placeholders := filled.2
    stripped := (Markup.strip filled.1).2 }

/-- The assembled grid. -/
def final : Grid := (Markup.strip filled.1).1

/-- The report is assembled. -/
theorem run_eq : assembler.run template records placeholders = .ok (final, outcome) :=
  BlockReport.run_of_placeholders placeholders

/-- The settings without a block. -/
def plainRules : StyleRules := { orderPlaceholder := "" }

/-- With these settings, the date stands in no merged range. -/
theorem merges_plain : (StylePlan.build final outcome plainRules {}).merges =
    [⟨cell 3 2, cell 5 2⟩] := by
  decide

/-- With the default settings, the date stands at the head of the block. -/
theorem merges_eq : (StylePlan.build final outcome {} {}).merges =
    [⟨cell 3 2, cell 5 2⟩, ⟨cell 0 1, cell 5 1⟩] := by
  decide

/-- Without a block, the report is stored. -/
theorem exists_stored_plain : ∃ sheet,
    StoredSheet.ofReport? "Report" final (StylePlan.build final outcome plainRules {})
      (fun _ => false) = some sheet := by
  have hstored : (StoredSheet.ofReport? "Report" final
      (StylePlan.build final outcome plainRules {}) fun _ => false).isSome = true := by
    decide
  exact Option.isSome_iff_exists.mp hstored

end DateReport

namespace Assembler

/-- A date that a report stores has the date format of the rules if it stands alone, or in a merged
range with a date of the report among its cells. At the first cell of any other merged range it
keeps the number format of the template. -/
theorem date_formats {a : Assembler} {template final : Grid} {records : Records}
    {placeholders : Placeholders} {outcome : Outcome}
    (hrun : a.run template records placeholders = .ok (final, outcome)) (rules : StyleRules)
    (formats : SheetFormats) {title : String} {isPicture : String → Bool} {sheet : StoredSheet}
    (hsheet : StoredSheet.ofReport? title final (StylePlan.build final outcome rules formats)
      isPicture = some sheet) {c : Cell} (hdate : (final.get c).isDate = true)
    (hfirst : ∀ m ∈ (StylePlan.build final outcome rules formats).merges,
      m.contains c = true → m.first = c) :
    ∃ stored, sheet.cells.get? c = some stored ∧ stored.content = (final.get c).content ∧
      ((∀ m ∈ (StylePlan.build final outcome rules formats).merges, m.contains c = true →
          ∃ d, m.contains d = true ∧ outcome.extent.contains d = true ∧
            (final.get d).isDate = true) →
        stored.format.number = StyledFormat.number? (some (.custom rules.dateFormat))) ∧
      ∀ m ∈ (StylePlan.build final outcome rules formats).merges, m.contains c = true →
        (∀ d, m.contains d = true → outcome.extent.contains d = true →
          (final.get d).isDate = false) →
        ∀ number, number = StyledFormat.number?
            (((StylePlan.build final outcome rules formats).baseOf? c).bind (·.number)) →
          (∀ index, number = some (.builtin index) → index < StoredSheet.firstCustom) →
          stored.format.number = number := by
  obtain ⟨groups, anchors, laid, resolved, h⟩ := run_eq_ok hrun
  obtain ⟨codes, written, hget, hcontent, hnumber⟩ :=
    StoredSheet.exists_stored_date hsheet hdate hfirst
  refine ⟨_, hget, (StoredSheet.content_renumber _ _).trans hcontent, fun hdates => ?_,
    fun m hm hcontains hnone number hbase hbuiltin => ?_⟩
  · have hwritten : written.format.number =
        StyledFormat.number? (some (.custom rules.dateFormat)) := by
      rcases hnumber with ⟨-, hnumber⟩ | ⟨m, hm, rfl, hcontains, -, hnumber⟩
      · rwa [StylePlan.dateFormat_build] at hnumber
      · have hdated : ((StylePlan.build final outcome rules formats).mergedStyle m).date = true :=
          (StylePlan.date_mergedStyle_build h.nodup_stripped).mpr (hdates m hm hcontains)
        rwa [StoredSheet.mergedNumber?, if_pos hdated, StylePlan.dateFormat_build] at hnumber
    rw [StoredSheet.number_renumber, hwritten]
    intro index hindex
    rw [hwritten] at hindex
    exact absurd hindex (StyledFormat.number?_custom_ne_builtin _ _)
  · have hwritten : written.format.number = number := by
      rcases hnumber with ⟨halone, -⟩ | ⟨m', hm', rfl, -, hunique, hnumber⟩
      · rw [halone m hm] at hcontains
        contradiction
      · obtain rfl := hunique m hm hcontains
        have hundated : ¬ ((StylePlan.build final outcome rules formats).mergedStyle m).date =
            true := by
          intro hdated
          obtain ⟨d, hd, hinside, hdate⟩ :=
            (StylePlan.date_mergedStyle_build h.nodup_stripped).mp hdated
          rw [hnone d hd hinside] at hdate
          contradiction
        rw [hnumber, hbase, StoredSheet.mergedNumber?, if_neg hundated]
    rw [StoredSheet.number_renumber, hwritten]
    intro index hindex
    exact hbuiltin index (hwritten.symm.trans hindex)

/-- A date for the order has the date format if there is no block. -/
theorem dateReport_date_formats :
    SmallReport.assembler.run BlockReport.template BlockReport.records DateReport.placeholders =
        .ok (DateReport.final, DateReport.outcome) ∧
      (DateReport.final.get (SmallReport.cell 0 1)).isDate = true ∧
      ∃ sheet stored,
        StoredSheet.ofReport? "Report" DateReport.final
            (StylePlan.build DateReport.final DateReport.outcome DateReport.plainRules {})
            (fun _ => false) = some sheet ∧
          sheet.cells.get? (SmallReport.cell 0 1) = some stored ∧
          stored.format.number = some (.custom "dd/mm/yyyy") := by
  have hdate : (DateReport.final.get (SmallReport.cell 0 1)).isDate = true := by decide
  obtain ⟨sheet, hsheet⟩ := DateReport.exists_stored_plain
  have hnone : ∀ m ∈ (StylePlan.build DateReport.final DateReport.outcome DateReport.plainRules
      {}).merges, m.contains (SmallReport.cell 0 1) = false := by
    rw [DateReport.merges_plain]
    decide
  obtain ⟨stored, hstored, -, hnumber, -⟩ := date_formats DateReport.run_eq DateReport.plainRules {}
    hsheet hdate fun m hm hcontains => absurd hcontains (by simp [hnone m hm])
  refine ⟨DateReport.run_eq, hdate, sheet, stored, hsheet, hstored, hnumber ?_⟩
  exact fun m hm hcontains => absurd hcontains (by simp [hnone m hm])

/-- At the head of a block it has no number format at all. -/
theorem dateReport_block_has_no_date_format :
    SmallReport.assembler.run BlockReport.template BlockReport.records DateReport.placeholders =
        .ok (DateReport.final, DateReport.outcome) ∧
      DateReport.final.get (SmallReport.cell 0 1) = .date ⟨20000⟩ ∧
      (∀ m ∈ (StylePlan.build DateReport.final DateReport.outcome {} {}).merges,
        m.contains (SmallReport.cell 0 1) = true → m.first = SmallReport.cell 0 1) ∧
      ∃ sheet stored,
        StoredSheet.ofReport? "Report" DateReport.final
            (StylePlan.build DateReport.final DateReport.outcome {} {}) (fun _ => false) =
          some sheet ∧
        sheet.cells.get? (SmallReport.cell 0 1) = some stored ∧
        stored.content = (Value.date ⟨20000⟩).content ∧ stored.format.number = none := by
  have hdate : DateReport.final.get (SmallReport.cell 0 1) = .date ⟨20000⟩ := by decide
  have hfirst : ∀ m ∈ (StylePlan.build DateReport.final DateReport.outcome {} {}).merges,
      m.contains (SmallReport.cell 0 1) = true → m.first = SmallReport.cell 0 1 := by
    rw [DateReport.merges_eq]
    decide
  have hstored : (StoredSheet.ofReport? "Report" DateReport.final
      (StylePlan.build DateReport.final DateReport.outcome {} {}) fun _ => false).map (fun sheet =>
        (sheet.cells.get? (SmallReport.cell 0 1)).map (·.format.number)) = some (some none) := by
    decide
  obtain ⟨sheet, hsheet, hcell⟩ := Option.map_eq_some_iff.mp hstored
  obtain ⟨stored, hget, hnumber⟩ := Option.map_eq_some_iff.mp hcell
  have hcontent := StoredSheet.contentAt_of_ofReport? hsheet hfirst
  rw [StoredSheet.contentAt, hget, hdate] at hcontent
  exact ⟨DateReport.run_eq, hdate, hfirst, sheet, stored, hsheet, hget, hcontent, hnumber⟩

end Assembler

end SheetReport
