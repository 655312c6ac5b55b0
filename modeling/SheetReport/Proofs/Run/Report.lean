import SheetReport.Formatter
import SheetReport.Proofs.Files.Saving
import SheetReport.Proofs.Sequence
import SheetReport.Proofs.Style.Merging

/-!
# What a report is made of

The report of an input depends on the files through two of them only: the input itself and the
picture of the settings, whose place is the only one that a plan can hold. What happens to other
files while a report is made does not matter to it.
-/

namespace SheetReport

namespace StylePlan

variable {p : StylePlan} {rules : StyleRules} {extent e : Extent} {i : Cell × String}

/-- Changing the styles of cells places no picture. -/
@[simp] theorem image_modifyAll (cells : List Cell) (change : Cell → CellStyle → CellStyle) :
    (p.modifyAll cells change).image = p.image := by
  obtain ⟨styles, hstyles⟩ := @exists_modifyAll_eq p cells change
  rw [hstyles]

/-- Drawing a border places no picture. -/
@[simp] theorem image_outline : (p.outline e).image = p.image := image_modifyAll _ _

/-- Merging the cells over subtotals places no picture. -/
theorem image_foldl_mergeGroup (subtotals : List Subtotal) :
    (subtotals.foldl (mergeGroup rules) p).image = p.image := by
  have hgroup (p : StylePlan) (s : Subtotal) : (mergeGroup rules p s).image = p.image := by
    unfold mergeGroup
    split
    · split
      · rename_i first last _
        rw [addMerge]
        cases hadd : p.addMerge? ⟨first, last⟩ with
        | none => rfl
        | some p' => rw [eq_of_addMerge? hadd, Option.getD_some]
      · rfl
    · rfl
  induction subtotals generalizing p with
  | nil => rfl
  | cons s rest ih => rw [List.foldl_cons, ih, hgroup]

/-- The block of the order places no picture. -/
theorem image_placeOrder (o : Outcome) : (placeOrder rules o p).image = p.image := by
  unfold placeOrder
  split
  · rename_i cell _ _
    unfold orderBlock
    dsimp only
    split
    · rfl
    · rename_i p' hblock
      have himage : p'.image = p.image := by
        split at hblock
        · rw [Option.some.inj hblock]
        · rw [eq_of_addMerge? hblock]
      rw [← himage]
      exact image_outline
  · rfl

/-- The picture comes to the place of a cleared tag. -/
theorem mem_image_foldl_markStripped {tags : List (Cell × String)}
    (h : i ∈ (tags.foldl (markStripped rules extent) p).image) :
    i ∈ p.image ∨ rules.icon = some i.2 := by
  have hmark {p : StylePlan} {tag : Cell × String} (h : i ∈ (markStripped rules extent p tag).image) :
      i ∈ p.image ∨ rules.icon = some i.2 := by
    have hplain (h : i ∈ (if extent.contains tag.1 then p.modify tag.1 (bold tag.1) else p).image) :
        i ∈ p.image := by
      split at h <;> exact h
    unfold markStripped at h
    dsimp only at h
    split at h
    · split at h
      · exact .inl h
      · exact .inl (hplain h)
    · split at h
      · split at h
        · rename_i icon hicon
          obtain rfl := Option.mem_some_iff.mp h
          exact .inr hicon
        · exact .inl h
      · exact .inl (hplain h)
    · exact .inl (hplain h)
  induction tags generalizing p with
  | nil => exact .inl h
  | cons tag rest ih => exact (ih h).elim hmark .inr

/-- The picture of a plan is that of the settings. -/
theorem icon_of_mem_image {g : Grid} {o : Outcome} {formats : SheetFormats}
    (h : i ∈ (build g o rules formats).image) : rules.icon = some i.2 := by
  unfold build at h
  simp only [image_placeOrder, image_foldl_mergeGroup, image_outline, image_modifyAll] at h
  refine (mem_image_foldl_markStripped h).resolve_left fun hstart => ?_
  rw [image_modifyAll] at hstart
  contradiction

end StylePlan

/-- A report is stored alike if its picture is one or not. -/
theorem Workbook.ofReport_congr {name : String} {g : Grid} {p : StylePlan}
    {isPicture isPicture' : String → Bool} (h : ∀ i ∈ p.image, isPicture i.2 = isPicture' i.2) :
    Workbook.ofReport name g p isPicture = Workbook.ofReport name g p isPicture' := by
  have himage : (p.image.all fun i => isPicture i.2 && StoredSheet.hasCell i.1) =
      p.image.all fun i => isPicture' i.2 && StoredSheet.hasCell i.1 := by
    cases hp : p.image with
    | none => rfl
    | some i => rw [Option.all_some, Option.all_some, h i hp]
  rw [Workbook.ofReport, StoredSheet.ofReport?, himage]
  rfl

namespace Formatter

variable {f : Formatter} {files files' : FileStore} {input : String}

/-- The records of an input are told by its content. -/
theorem load_congr (h : files.content? input = files'.content? input) :
    f.load files input = f.load files' input := by
  simp only [load, FileStore.workbook, h]

/-- A report of records is told by the picture of the settings. -/
theorem compose_congr (h : ∀ icon, f.style.icon = some icon →
      files.content? icon = files'.content? icon) (orderId : Option String) (records : Records) :
    f.compose files input orderId records = f.compose files' input orderId records := by
  have hstored (g : Grid) (o : Outcome) :
      Workbook.ofReport f.template.sheetName g (StylePlan.build g o f.style f.template.formats)
          files.isPicture =
        Workbook.ofReport f.template.sheetName g (StylePlan.build g o f.style f.template.formats)
          files'.isPicture := by
    refine Workbook.ofReport_congr fun i hi => ?_
    rw [FileStore.isPicture, h i.2 (StylePlan.icon_of_mem_image hi)]
    rfl
  simp only [compose, hstored]

/-- A report is told by the contents of its input and of the picture of the settings. -/
theorem report_congr (hinput : files.content? input = files'.content? input)
    (hicon : ∀ icon, f.style.icon = some icon → files.content? icon = files'.content? icon)
    (output : String) : f.report files input output = f.report files' input output := by
  simp only [report, load_congr hinput, compose_congr hicon]

/-- The summary of a report names its input and no error. -/
theorem summary_of_report_eq_ok {output : String} {workbook : Workbook} {summary : ReportSummary}
    (h : f.report files input output = .ok (workbook, summary)) :
    summary.input = input ∧ summary.isSuccess = true := by
  obtain ⟨raw, -, h⟩ := bind_eq_ok_iff.mp h
  obtain ⟨made, -, h⟩ := bind_eq_ok_iff.mp h
  obtain ⟨-, rfl⟩ := Prod.mk.inj (Except.ok.inj h)
  exact ⟨rfl, rfl⟩

end Formatter

end SheetReport
