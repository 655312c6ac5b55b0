import SheetReport.Proofs.Files.Saving
import SheetReport.Proofs.Workbook.Reading
import SheetReport.Proofs.Workbook.Stored

/-!
# A report is read back as it was assembled

A stored report holds more cells than the grid that it was made of: styles, formats and merged
ranges write blank cells, and a merged range covers the values behind its first cell. What is read
back as a template is the grid without the covered values and nothing else, as long as the values
are of the kinds that a file keeps: texts and formulas that come back unchanged, finite numbers
without a format of dates, and truth values. Ranges that overlap or are single cells need no
assumption, since a plan with such ranges is not stored at all.

Main statement: `template_of_saved_report`.
-/

namespace SheetReport

/-- A value that a file keeps: a text or a formula that comes back unchanged, a finite number or a
truth value. -/
def Value.IsKept : Value → Prop
  | .text s => s ≠ "" ∧ StoredText.readBack? s = some s
  | .number x => ∃ negative mantissa exponent,
      Number.kind x = .finite negative mantissa exponent
  | .bool _ => True
  | .formula s => (∃ body, body ≠ "" ∧ s = "=" ++ body) ∧ "=" ++ StoredFormula.stored s = s
  | .empty | .date _ | .dateTime _ => False

/-- The value that a report shows in a cell: nothing behind the first cell of a merged range, and
elsewhere that of the grid. -/
def StylePlan.shownValue (p : StylePlan) (g : Grid) (c : Cell) : Value :=
  if p.merges.any fun m => m.contains c && m.first != c then .empty else g.get c

namespace StoredCell

/-- A kept value is shown where it is stored, unless it is a number and its format shows a time.
Where nothing is stored, nothing is shown. -/
theorem shown_eq {stored : StoredCell} {v : Value} (hcontent : stored.content = v.content)
    (hkept : v ≠ .empty → v.IsKept) (htime : ∀ x, stored.content = .number x → stored.isTime = false) :
    stored.shown = v := by
  cases v with
  | empty =>
    simp only [Value.content] at hcontent
    simp only [shown, shownFormula?, formula?, value?, hcontent, Option.bind_none, Option.getD_none]
  | text s =>
    obtain ⟨hnonempty, hback⟩ := hkept (by simp)
    simp only [Value.content, StoredSheet.textContent, if_neg hnonempty, hback] at hcontent
    simp only [shown, shownFormula?, formula?, value?, hcontent, Option.bind_none,
      Option.getD_none, Option.getD_some, if_neg hnonempty]
  | number x =>
    obtain ⟨negative, mantissa, exponent, hkind⟩ := hkept (by simp)
    simp only [Value.content, hkind, reduceCtorEq, if_false] at hcontent
    simp only [shown, shownFormula?, formula?, value?, hcontent, numberValue, htime x hcontent,
      Option.bind_none, Option.getD_none, Option.getD_some, Bool.false_eq_true, if_false]
  | bool b =>
    simp only [Value.content] at hcontent
    simp only [shown, shownFormula?, formula?, value?, hcontent, Option.bind_none,
      Option.getD_none, Option.getD_some]
  | formula s =>
    obtain ⟨⟨body, hbody, hs⟩, hback⟩ := hkept (by simp)
    have hstored : StoredFormula.stored s ≠ "" := by
      have hsame : "=" ++ StoredFormula.stored s = "=" ++ body := hback.trans hs
      rw [(String.append_right_inj "=").mp hsame]
      exact hbody
    simp only [Value.content] at hcontent
    simp only [shown, shownFormula?, formula?, hcontent, Option.bind_some, if_neg hstored, hback,
      Option.getD_some]
  | date d => exact (hkept (by simp)).elim
  | dateTime t => exact (hkept (by simp)).elim

end StoredCell

namespace StoredSheet

variable {g : Grid} {p : StylePlan} {c : Cell} {name : String} {isPicture : String → Bool}
  {sheet : StoredSheet}

/-- Among disjoint ranges at most one contains a cell. -/
theorem eq_of_areDisjoint {merges : List Extent} (h : areDisjoint merges = true) {m m' : Extent}
    (hm : m ∈ merges) (hm' : m' ∈ merges) (hc : m.contains c = true) (hc' : m'.contains c = true) :
    m = m' := by
  induction merges with
  | nil => contradiction
  | cons e rest ih =>
    rw [areDisjoint, Bool.and_eq_true, Bool.not_eq_true', List.any_eq_false] at h
    obtain ⟨hfirst, hrest⟩ := h
    obtain heq | hlater := List.mem_cons.mp hm <;> obtain heq' | hlater' := List.mem_cons.mp hm'
    · rw [heq, heq']
    · exact absurd (Extent.overlaps_of_contains (heq ▸ hc) hc') (hfirst m' hlater')
    · exact absurd (Extent.overlaps_of_contains (heq' ▸ hc') hc) (hfirst m hlater)
    · exact ih hrest hlater hlater'

/-- What is stored of a report: the cells of their own and those of the merged ranges, which are
disjoint. -/
theorem exists_of_ofReport? (h : ofReport? name g p isPicture = some sheet) :
    ∃ singles merged, (singleCells g p).mapM (single? g p) = some singles ∧
      p.merges.mapM (merged? g p) = some merged ∧ areDisjoint p.merges = true ∧
      sheet.cells = storedCells (singles ++ merged.flatten) := by
  unfold ofReport? at h
  obtain ⟨singles, hsingles, h⟩ := Option.bind_eq_some_iff.mp h
  dsimp only at h
  split at h
  · rename_i hchecks
    obtain ⟨merged, hmerged, h⟩ := Option.bind_eq_some_iff.mp h
    obtain rfl := Option.some.inj h
    simp only [Bool.and_eq_true] at hchecks
    exact ⟨singles, merged, hsingles, hmerged, hchecks.1.1.2, rfl⟩
  · contradiction

/-- Behind its first cell a merged range is written blank. -/
theorem content_of_merged?_of_ne {m : Extent} {cells : List (Cell × StoredCell)}
    {stored : StoredCell} (h : merged? g p m = some cells) (hmem : (c, stored) ∈ cells)
    (hfirst : m.first ≠ c) : stored.content = .blank := by
  obtain ⟨first, -, rfl⟩ := Option.map_eq_some_iff.mp h
  obtain ⟨c', -, heq⟩ := List.mem_map.mp hmem
  obtain ⟨rfl, rfl⟩ := Prod.mk.inj heq
  rw [if_neg (Ne.symm hfirst)]
  rfl

/-- Behind the first cell of a merged range a report stores nothing. -/
theorem contentAt_of_covered (h : ofReport? name g p isPicture = some sheet) {m : Extent}
    (hm : m ∈ p.merges) (hc : m.contains c = true) (hfirst : m.first ≠ c) :
    sheet.contentAt c = .blank := by
  obtain ⟨singles, merged, hsingles, hmerged, hdisjoint, hcells⟩ := exists_of_ofReport? h
  rw [contentAt, hcells]
  refine getD_storedCells (fun stored hmem => ?_) fun hblank => absurd rfl hblank
  rcases List.mem_append.mp hmem with hsingle | hrange
  · obtain ⟨c', hc', hwrite⟩ := (mem_of_mapM_eq_some hsingles _).mp hsingle
    obtain ⟨rfl, -⟩ := content_of_single? hwrite
    have hnone := (List.mem_filter.mp hc').2
    rw [Option.isNone_iff_eq_none, StylePlan.mergeAt?, List.find?_eq_none] at hnone
    exact absurd hc (hnone m hm)
  · obtain ⟨cells, hin, hstored⟩ := List.mem_flatten.mp hrange
    obtain ⟨m', hm', hwrite⟩ := (mem_of_mapM_eq_some hmerged _).mp hin
    obtain rfl := eq_of_areDisjoint hdisjoint hm' hm (content_of_merged? hwrite hstored).1 hc
    exact content_of_merged?_of_ne hwrite hstored hfirst

/-- What a stored report holds in each cell. -/
theorem contentAt_eq (h : ofReport? name g p isPicture = some sheet) (c : Cell) :
    sheet.contentAt c = (p.shownValue g c).content := by
  rw [StylePlan.shownValue]
  split_ifs with hcovered
  · obtain ⟨m, hm, hmc⟩ := List.any_eq_true.mp hcovered
    rw [Bool.and_eq_true, bne_iff_ne] at hmc
    exact contentAt_of_covered h hm hmc.1 hmc.2
  · refine contentAt_of_ofReport? h fun m hm hmc => ?_
    by_contra hne
    exact hcovered (List.any_eq_true.mpr ⟨m, hm, by simp [hmc, hne]⟩)

/-- Writing a value to a cell leaves it to the number format whether numbers are moments. -/
theorem isTime_of_writeValue? {cell stored : StoredCell} {v : Value}
    (h : writeValue? cell v = some stored)
    (hcell : cell.isTime = TimeFormat.isTime cell.format.number) :
    stored.isTime = TimeFormat.isTime stored.format.number := by
  cases v with
  | text s =>
    simp only [writeValue?] at h
    split at h
    · obtain rfl := Option.some.inj h
      exact hcell
    · split at h
      · contradiction
      · obtain rfl := Option.some.inj h
        exact hcell
  | number x =>
    simp only [writeValue?] at h
    split at h
    · obtain rfl := Option.some.inj h
      rfl
    · obtain rfl := Option.some.inj h
      exact hcell
  | formula s =>
    simp only [writeValue?] at h
    split at h
    · obtain rfl := Option.some.inj h
      rfl
    · obtain rfl := Option.some.inj h
      exact hcell
  | _ =>
    obtain rfl := Option.some.inj h
    exact hcell

/-- Renumbering the format of a cell settles anew whether numbers are moments. -/
theorem isTime_renumber (codes : List String) {c : StoredCell}
    (h : c.isTime = TimeFormat.isTime c.format.number) :
    (renumber codes c).isTime = TimeFormat.isTime (renumber codes c).format.number := by
  unfold renumber
  split
  · split
    · rfl
    · exact h
  · exact h

/-- What is stored was written, apart from the number of its format. -/
theorem exists_of_get?_storedCells {cells : List (Cell × StoredCell)} {stored : StoredCell}
    (h : (storedCells cells).get? c = some stored) :
    ∃ written, (c, written) ∈ cells ∧ stored = renumber (customCodes cells) written := by
  rw [storedCells, OrderedMap.get?_ofList_reverse] at h
  obtain ⟨e, he, heq⟩ := List.mem_map.mp (OrderedMap.mem_of_lookup h)
  obtain ⟨rfl, rfl⟩ := Prod.mk.inj heq
  exact ⟨e.2, (List.mem_filter.mp he).1, rfl⟩

/-- In a stored report the number formats tell which numbers are moments. -/
theorem isTime_of_ofReport? (h : ofReport? name g p isPicture = some sheet) {stored : StoredCell}
    (hget : sheet.cells.get? c = some stored) :
    stored.isTime = TimeFormat.isTime stored.format.number := by
  obtain ⟨singles, merged, hsingles, hmerged, -, hcells⟩ := exists_of_ofReport? h
  rw [hcells] at hget
  obtain ⟨written, hmem, rfl⟩ := exists_of_get?_storedCells hget
  refine isTime_renumber _ ?_
  rcases List.mem_append.mp hmem with hsingle | hrange
  · obtain ⟨c', -, hsome⟩ := (mem_of_mapM_eq_some hsingles _).mp hsingle
    unfold single? at hsome
    split at hsome
    · obtain ⟨stored', hwrite, heq⟩ := Option.map_eq_some_iff.mp hsome
      obtain ⟨-, rfl⟩ := Prod.mk.inj heq
      exact isTime_of_writeValue? hwrite rfl
    · contradiction
  · obtain ⟨cells, hin, hstored⟩ := List.mem_flatten.mp hrange
    obtain ⟨m, -, hsome⟩ := (mem_of_mapM_eq_some hmerged _).mp hin
    obtain ⟨first, hwrite, rfl⟩ := Option.map_eq_some_iff.mp hsome
    obtain ⟨c', -, heq⟩ := List.mem_map.mp hstored
    obtain ⟨-, rfl⟩ := Prod.mk.inj heq
    split_ifs
    · exact isTime_of_writeValue? hwrite rfl
    · rfl

/-- The content of kept values can be read. -/
theorem isReadable_of_content {stored : StoredCell} {v : Value}
    (hcontent : stored.content = v.content) (hkept : v ≠ .empty → v.IsKept) :
    stored.isReadable = true := by
  rw [StoredCell.isReadable, hcontent]
  cases v with
  | text s =>
    obtain ⟨hnonempty, hback⟩ := hkept (by simp)
    simp only [Value.content, textContent, if_neg hnonempty, hback]
  | number x =>
    obtain ⟨negative, mantissa, exponent, hkind⟩ := hkept (by simp)
    simp only [Value.content, hkind, reduceCtorEq, if_false]
  | _ => rfl

/-- A report of kept values is read back as it was assembled, the values behind the first cells of
merged ranges apart. -/
theorem template_of_ofReport? (h : ofReport? name g p isPicture = some sheet)
    (hkept : ∀ c, g.get c ≠ .empty → (g.get c).IsKept)
    (htime : ∀ c stored x, sheet.cells.get? c = some stored → stored.content = .number x →
      TimeFormat.isTime stored.format.number = false) :
    sheet.isReadable = true ∧ ∀ c, sheet.grid.get c = p.shownValue g c := by
  have hshown (c : Cell) (hne : p.shownValue g c ≠ .empty) : (p.shownValue g c).IsKept := by
    rw [StylePlan.shownValue] at hne ⊢
    split_ifs at hne ⊢
    · exact absurd rfl hne
    · exact hkept c hne
  have hcontent (c : Cell) (stored : StoredCell) (hget : sheet.cells.get? c = some stored) :
      stored.content = (p.shownValue g c).content := by
    rw [← contentAt_eq h c, contentAt, hget]
    rfl
  refine ⟨List.all_eq_true.mpr fun e he => ?_, fun c => ?_⟩
  · exact isReadable_of_content (hcontent e.1 e.2 (OrderedMap.get?_eq_some_iff.mpr he))
      (hshown e.1)
  · rw [get_grid]
    cases hget : sheet.cells.get? c with
    | none =>
      have hblank : ({ content := .blank } : StoredCell).content = (p.shownValue g c).content := by
        rw [← contentAt_eq h c, contentAt, hget]
        rfl
      exact StoredCell.shown_eq hblank (hshown c) fun x hx => by contradiction
    | some stored =>
      refine StoredCell.shown_eq (hcontent c stored hget) (hshown c) fun x hx => ?_
      rw [isTime_of_ofReport? h hget, htime c stored x hget hx]

end StoredSheet

/-- A report that is stored and saved is loaded as a template that shows the grid it was made of,
without the values behind the first cells of merged ranges: every value in its own cell, and no
other cell. The values have to be of the kinds that a file keeps, no number may be written with
a format of dates or times, and the file must not be named as a workbook of another kind. -/
theorem template_of_saved_report {name : String} {g : Grid} {p : StylePlan}
    {isPicture : String → Bool} {w : Workbook} (h : Workbook.ofReport name g p isPicture = .ok w)
    (hkept : ∀ c, g.get c ≠ .empty → (g.get c).IsKept)
    (htime : ∀ sheet ∈ w.sheets, ∀ c stored x, sheet.cells.get? c = some stored →
      stored.content = .number x → TimeFormat.isTime stored.format.number = false) :
    ∃ template : Template, (∀ path, w.template path = .ok template) ∧
      (∀ (files files' : FileStore) (path : String), files.save path (.workbook w) = (files', .ok ()) →
        (Path.extension? path).any FileStore.otherExtensions.contains = false →
          (files'.workbook path >>= fun w => w.template path) = .ok template) ∧
      ∀ c, template.grid.get c =
        if p.merges.any fun m => m.contains c && m.first != c then .empty else g.get c := by
  unfold Workbook.ofReport at h
  split at h
  · rename_i sheet hsheet
    obtain rfl := Except.ok.inj h
    obtain ⟨hreadable, hgrid⟩ := StoredSheet.template_of_ofReport? hsheet hkept
      (htime sheet List.mem_cons_self)
    have htemplate (path : String) : ({ sheets := [sheet] } : Workbook).template path =
        .ok ⟨sheet.name, sheet.grid, sheet.formats⟩ := by
      rw [Workbook.template]
      exact if_pos hreadable
    refine ⟨_, htemplate, fun files files' path hsave hextension => ?_, hgrid⟩
    rw [FileStore.workbook, FileStore.content?_of_save hsave]
    simp only [hextension, Bool.false_eq_true, if_false]
    exact htemplate path
  · contradiction

namespace MergedPair

/-- The cell at a row and a column; the first one if the sheet has no such cell. -/
def cell (row col : Nat) : Cell := (Cell.ofNat? row col).getD default

/-- A half, as a number of the sheet. -/
def half : Double := ⟨0x3fe0000000000000⟩

/-- A text above another one, a truth value above a formula, and a number. -/
def grid : Grid :=
  .ofList [(cell 0 0, .text "ORD-1"), (cell 0 1, .bool true), (cell 1 0, .text "covered"),
    (cell 1 1, .formula "=B1"), (cell 2 1, .number half)]

/-- The two texts are merged, the number is a percentage, and a cell without a value is bold. -/
def plan : StylePlan :=
  { merges := [⟨cell 0 0, cell 1 0⟩]
    base := .ofList [(cell 2 1, { number := some (.builtin 9) })]
    styles := .ofList [(cell 3 3, { bold := true })] }

/-- The report is stored, and the format of its number is no time. -/
theorem exists_ofReport_eq : ∃ sheet,
    Workbook.ofReport "Report" grid plan (fun _ => false) = .ok { sheets := [sheet] } ∧
      ∀ c stored x, sheet.cells.get? c = some stored → stored.content = .number x →
        TimeFormat.isTime stored.format.number = false := by
  have hstored : ((StoredSheet.ofReport? "Report" grid plan fun _ => false).map fun sheet =>
      sheet.cells.entries.all fun e => !TimeFormat.isTime e.2.format.number) = some true := by
    decide +kernel
  obtain ⟨sheet, hsheet, hall⟩ := Option.map_eq_some_iff.mp hstored
  refine ⟨sheet, by rw [Workbook.ofReport, hsheet], fun c stored x hget _ => ?_⟩
  simpa using List.all_eq_true.mp hall _ (OrderedMap.get?_eq_some_iff.mp hget)

/-- The file keeps all values. -/
theorem isKept {c : Cell} (h : grid.get c ≠ .empty) : (grid.get c).IsKept := by
  have hentries : grid.entries = [(cell 0 0, .text "ORD-1"), (cell 0 1, .bool true),
      (cell 1 0, .text "covered"), (cell 1 1, .formula "=B1"), (cell 2 1, .number half)] := by
    decide
  have hmem : (c, grid.get c) ∈ grid.entries := Grid.mem_entries.mpr ⟨rfl, h⟩
  rw [hentries] at hmem
  simp only [List.mem_cons, Prod.mk.injEq, List.not_mem_nil, or_false] at hmem
  obtain ⟨-, hv⟩ | ⟨-, hv⟩ | ⟨-, hv⟩ | ⟨-, hv⟩ | ⟨-, hv⟩ := hmem <;> rw [hv]
  · exact ⟨by decide, by decide⟩
  · trivial
  · exact ⟨by decide, by decide⟩
  · exact ⟨⟨"B1", by decide, by decide⟩, by decide⟩
  · exact ⟨false, Number.leadingBit, -53, by decide⟩

end MergedPair

/-- The report of a merged pair is saved and loaded without the text that is covered, and without
the bold cell. The percentage is read as the number that it was. -/
theorem mergedPair_template_of_saved_report :
    ∃ w files' template,
      Workbook.ofReport "Report" MergedPair.grid MergedPair.plan (fun _ => false) = .ok w ∧
      (∀ c, MergedPair.grid.get c ≠ .empty → (MergedPair.grid.get c).IsKept) ∧
      (∀ sheet ∈ w.sheets, ∀ c stored x, sheet.cells.get? c = some stored →
        stored.content = .number x → TimeFormat.isTime stored.format.number = false) ∧
      FileStore.workspace.save "report.xlsx" (.workbook w) = (files', .ok ()) ∧
      (files'.workbook "report.xlsx" >>= fun w => w.template "report.xlsx") = .ok template ∧
      template.grid.get (MergedPair.cell 0 0) = .text "ORD-1" ∧
      template.grid.get (MergedPair.cell 1 0) = .empty ∧
      template.grid.get (MergedPair.cell 1 1) = .formula "=B1" ∧
      template.grid.get (MergedPair.cell 2 1) = .number MergedPair.half ∧
      template.grid.get (MergedPair.cell 3 3) = .empty := by
  obtain ⟨sheet, hreport, htime⟩ := MergedPair.exists_ofReport_eq
  have htimes : ∀ s ∈ [sheet], ∀ c stored x, s.cells.get? c = some stored →
      stored.content = .number x → TimeFormat.isTime stored.format.number = false := by
    rintro s hs
    rw [List.mem_singleton.mp hs]
    exact htime
  have hkept : ∀ c, MergedPair.grid.get c ≠ .empty → (MergedPair.grid.get c).IsKept :=
    fun c => MergedPair.isKept
  obtain ⟨template, -, hload, hgrid⟩ := template_of_saved_report hreport hkept htimes
  have hsave : FileStore.workspace.save "report.xlsx" (.workbook { sheets := [sheet] }) =
      ((FileStore.workspace.save "report.xlsx" (.workbook { sheets := [sheet] })).1, .ok ()) := rfl
  refine ⟨_, _, template, hreport, hkept, htimes, hsave,
    hload _ _ _ hsave (by decide), ?_, ?_, ?_, ?_, ?_⟩ <;> rw [hgrid] <;> decide

end SheetReport
