import SheetReport.Proofs.Run.Report

/-!
# What making one report changes

Making a report changes the store at the place of its output and that of the temporary file
beside it, after the directories on the way were created. What happens there is told by these
places, by their directory and by the report. An output that exists is left alone, and so is
every other file.
-/

namespace SheetReport.Formatter

open SheetReport.Path (NamesFile partialName)

variable {f : Formatter} {s t : FileStore} {input output name : String} {dir : List String}
  {d k : Location}

/-- What is answered after a report was saved, or was not. -/
def savedReport (output : String) (summary : ReportSummary) :
    Except WorkbookError Unit → Except RunError ReportSummary
  | .error error => .error (.notSaved output error)
  | .ok _ => .ok summary

/-- A report that is made is saved, once its place is prepared. -/
theorem format_of_report {workbook : Workbook} {summary : ReportSummary}
    (hprepare : s.prepare output f.overwrite = (s, .ok ()))
    (hreport : f.report s input output = .ok (workbook, summary)) :
    f.format s input output = ((s.save output (.workbook workbook)).1,
      savedReport output summary (s.save output (.workbook workbook)).2) := by
  simp only [format, hprepare, hreport]
  cases s.save output (.workbook workbook) with
  | mk files result => cases result <;> rfl

/-- A report that is told of is that of its input. -/
theorem report_of_format_eq_ok {summary : ReportSummary}
    (h : (f.format s input output).2 = .ok summary) :
    ∃ t workbook, f.report t input output = .ok (workbook, summary) := by
  unfold format at h
  split at h
  · contradiction
  · rename_i files _ _
    split at h
    · contradiction
    · rename_i workbook summary' hreport
      split at h
      · contradiction
      · obtain rfl := Except.ok.inj h
        exact ⟨files, workbook, hreport⟩

variable (hf : f.overwrite = false) (h : NamesFile output dir name) (hdots : ".." ∉ dir)
include hf h hdots

/-- It does not matter to a report whether its directories were created before. -/
theorem format_makeDirectories :
    f.format (s.makeDirectories (s.start output) dir).1 input output =
      f.format s input output := by
  rw [format, hf, FileStore.prepare_makeDirectories h hdots, format, hf]

variable (hd : s.start output ++ dir = d) (hprepared : s.IsPrepared (s.start output) dir)
include hd hprepared

/-- Either no report is made and nothing changes, or a report is made for a place where nothing
stands, and it is saved there. -/
theorem format_cases :
    (∃ error, f.format s input output = (s, .error error)) ∨
      ∃ workbook summary, f.report s input output = .ok (workbook, summary) ∧
        s.node? (d ++ [name]) = none ∧ s.hasDirectory d = true ∧
        f.format s input output = ((s.save output (.workbook workbook)).1,
          savedReport output summary (s.save output (.workbook workbook)).2) := by
  have hprepare := FileStore.prepare_eq h hdots hd hprepared
  rw [← hf] at hprepare
  by_cases hplace : (s.node? (d ++ [name])).isSome = true
  · rw [if_pos hplace] at hprepare
    exact .inl ⟨_, by rw [format, hprepare]⟩
  rw [if_neg hplace] at hprepare
  by_cases hdirectory : s.hasDirectory d = true
  · rw [if_pos hdirectory] at hprepare
    cases hreport : f.report s input output with
    | error error => exact .inl ⟨error, by simp only [format, hprepare, hreport]⟩
    | ok made =>
      exact .inr ⟨made.1, made.2, rfl, Option.not_isSome_iff_eq_none.mp hplace, hdirectory,
        format_of_report hprepare hreport⟩
  · rw [if_neg hdirectory] at hprepare
    exact .inl ⟨_, by rw [format, hprepare]⟩

/-- Elsewhere nothing changes. -/
theorem node?_format (hplace : k ≠ d ++ [name]) (htemporary : k ≠ d ++ [partialName name]) :
    (f.format s input output).1.node? k = s.node? k := by
  obtain ⟨error, hformat⟩ | ⟨workbook, summary, -, -, -, hformat⟩ :=
    format_cases hf h hdots hd hprepared
  · rw [hformat]
  · rw [hformat, FileStore.node?_save h hdots hd]
    simp only [hplace, htemporary, and_false, if_false, ite_self]

/-- All files are kept that are not temporary, and all directories. -/
theorem keeps_format :
    FileStore.Keeps {d ++ [partialName name]} s (f.format s input output).1 := by
  obtain ⟨error, hformat⟩ | ⟨workbook, summary, -, hnone, -, hformat⟩ :=
    format_cases hf h hdots hd hprepared
  · rw [hformat]
    exact .refl _ s
  · rw [hformat]
    exact FileStore.keeps_save h hdots hd hnone

/-- The directories for the outputs stay as they are. -/
theorem isPrepared_format :
    (f.format s input output).1.IsPrepared (s.start output) dir := by
  obtain ⟨error, hformat⟩ | ⟨workbook, summary, -, hnone, hdirectory, hformat⟩ :=
    format_cases hf h hdots hd hprepared
  · rwa [hformat]
  · rw [hformat]
    refine FileStore.isPrepared_of_hasDirectory hdots ?_
    exact (FileStore.keeps_save h hdots hd hnone).directory _ (hd ▸ hdirectory)

/-- A report that is told of was made for a place where nothing stood, and stands there. -/
theorem node?_of_format_eq_ok {summary : ReportSummary}
    (hok : (f.format s input output).2 = .ok summary) :
    s.node? (d ++ [name]) = none ∧ ∃ workbook, f.report s input output = .ok (workbook, summary) ∧
      (f.format s input output).1.node? (d ++ [name]) = some (.file (.workbook workbook)) := by
  obtain ⟨error, hformat⟩ | ⟨workbook, summary', hreport, hnone, -, hformat⟩ :=
    format_cases hf h hdots hd hprepared
  · rw [hformat] at hok
    contradiction
  · rw [hformat] at hok ⊢
    cases hsave : (s.save output (.workbook workbook)).2 with
    | error error =>
      rw [hsave] at hok
      contradiction
    | ok =>
      rw [hsave] at hok
      obtain rfl := Except.ok.inj hok
      exact ⟨hnone, workbook, hreport, FileStore.node?_of_save_eq_ok h hdots hd hsave⟩

/-- Where a report fails, the place of its output is as it was. -/
theorem node?_of_format_eq_error {error : RunError}
    (herror : (f.format s input output).2 = .error error) :
    (f.format s input output).1.node? (d ++ [name]) = s.node? (d ++ [name]) := by
  obtain ⟨error, hformat⟩ | ⟨workbook, summary', -, -, -, hformat⟩ :=
    format_cases hf h hdots hd hprepared
  · rw [hformat]
  · rw [hformat] at herror ⊢
    cases hsave : (s.save output (.workbook workbook)).2 with
    | error error => exact FileStore.node?_of_save_eq_error h hdots hd hsave
    | ok =>
      rw [hsave] at herror
      contradiction

/-- What becomes of a report is told by its directory, its place, that of the temporary file and
the report itself. -/
theorem format_congr (hd' : t.start output ++ dir = d)
    (hprepared' : t.IsPrepared (t.start output) dir)
    (hdirectory : s.hasDirectory d = t.hasDirectory d)
    (hplace : s.node? (d ++ [name]) = t.node? (d ++ [name]))
    (htemporary : s.node? (d ++ [partialName name]) = t.node? (d ++ [partialName name]))
    (hreport : f.report s input output = f.report t input output) :
    (f.format s input output).2 = (f.format t input output).2 ∧
      (f.format s input output).1.node? (d ++ [name]) =
        (f.format t input output).1.node? (d ++ [name]) ∧
      (f.format s input output).1.node? (d ++ [partialName name]) =
        (f.format t input output).1.node? (d ++ [partialName name]) := by
  have hs := FileStore.prepare_eq h hdots hd hprepared
  have ht := FileStore.prepare_eq h hdots hd' hprepared'
  rw [hplace, hdirectory, ← hf] at hs
  rw [← hf] at ht
  -- both stores answer alike when the place is prepared, so their runs part nowhere
  revert hs ht
  generalize (if (t.node? (d ++ [name])).isSome then .error (.outputExists output)
    else if t.hasDirectory d then .ok () else .error .io : Except WorkbookError Unit) = result
  intro hs ht
  cases result with
  | error error =>
    simp only [format, hs, ht]
    exact ⟨trivial, hplace, htemporary⟩
  | ok =>
    cases hmade : f.report t input output with
    | error error =>
      simp only [format, hs, ht, hreport, hmade]
      exact ⟨trivial, hplace, htemporary⟩
    | ok made =>
      obtain ⟨hresult, hsave⟩ : (s.save output (.workbook made.1)).2 =
          (t.save output (.workbook made.1)).2 ∧ _ :=
        FileStore.save_congr h hdots hd hd' hdirectory hplace htemporary
      rw [format_of_report hs (hreport.trans hmade), format_of_report ht hmade, hresult]
      exact ⟨rfl, hsave⟩

end SheetReport.Formatter
