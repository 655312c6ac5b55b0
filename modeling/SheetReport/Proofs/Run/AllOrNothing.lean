import SheetReport.Proofs.Files.Replacing
import SheetReport.Proofs.Run.Output

/-!
# Making a report is all or nothing

A report goes through several stages that can fail, and directories are created before the first
of them. Wherever it stops, the output is what it was; where it does not stop, the output is the
whole report. It does not matter whether a path can name a file, whether a directory or another
file stands at one of the two places, or whether outputs may be overwritten.

Main statement: `format_is_all_or_nothing`.
-/

namespace SheetReport.Formatter

open FileStore
open SheetReport.Path (partialName)

variable {f : Formatter} {s : FileStore} {input output : String} {k : Location}

/-- A report ends before anything is saved, or it ends with saving what was made. -/
theorem format_stages (f : Formatter) (s : FileStore) (input output : String) :
    (∃ error, f.format s input output =
        ((s.prepare output f.overwrite).1, .error error)) ∨
      ∃ workbook summary, (s.prepare output f.overwrite).2 = .ok () ∧
        f.report (s.prepare output f.overwrite).1 input output = .ok (workbook, summary) ∧
        f.format s input output =
          (((s.prepare output f.overwrite).1.save output (.workbook workbook)).1,
            savedReport output summary
              ((s.prepare output f.overwrite).1.save output (.workbook workbook)).2) := by
  rw [format]
  obtain ⟨prepared, result⟩ := s.prepare output f.overwrite
  cases result with
  | error error => exact .inl ⟨_, rfl⟩
  | ok =>
    dsimp only
    cases hreport : f.report prepared input output with
    | error error => exact .inl ⟨error, rfl⟩
    | ok made =>
      refine .inr ⟨made.1, made.2, rfl, rfl, ?_⟩
      dsimp only
      cases prepared.save output (.workbook made.1) with
      | mk files saved => cases saved <;> rfl

/-- A report is told of only if its file was saved. -/
theorem eq_ok_of_savedReport {summary summary' : ReportSummary} {result : Except WorkbookError Unit}
    (h : savedReport output summary result = .ok summary') :
    result = .ok () ∧ summary = summary' := by
  cases result with
  | error error => contradiction
  | ok => exact ⟨rfl, Except.ok.inj h⟩

/-- An error after a report was made is that of saving it. -/
theorem exists_error_of_savedReport {summary : ReportSummary} {result : Except WorkbookError Unit}
    {error : RunError} (h : savedReport output summary result = .error error) :
    ∃ error, result = .error error := by
  cases result with
  | error error => exact ⟨error, rfl⟩
  | ok => contradiction

section Places

variable (hdots : ".." ∉ Path.steps output)

/-- Paths start where they did before the output was prepared. -/
theorem start_prepare : (s.prepare output f.overwrite).1.start output = s.start output :=
  (keeps_prepare s output f.overwrite).start_eq output

/-- The place of an output stays the same while it is prepared. -/
theorem outputPlace_prepare :
    (s.prepare output f.overwrite).1.outputPlace output = s.outputPlace output := by
  rw [outputPlace, start_prepare, outputPlace]

/-- So does the place of its temporary file. -/
theorem partialPlace_prepare :
    (s.prepare output f.overwrite).1.partialPlace output = s.partialPlace output := by
  rw [partialPlace, start_prepare, partialPlace]

/-- Paths start where they did before the report was made. -/
theorem start_format : (f.format s input output).1.start output = s.start output := by
  obtain ⟨error, hformat⟩ | ⟨workbook, summary, -, -, hformat⟩ := format_stages f s input output
  · rw [hformat, start_prepare]
  · rw [hformat, start, current_save]
    exact start_prepare

include hdots

/-- Away from both places no file comes, goes or changes. -/
theorem node?_format_eq_file_iff (hk : k ≠ s.outputPlace output)
    (htemporary : k ≠ s.partialPlace output) (content : FileContent) :
    (f.format s input output).1.node? k = some (.file content) ↔
      s.node? k = some (.file content) := by
  obtain ⟨error, hformat⟩ | ⟨workbook, summary, -, -, hformat⟩ := format_stages f s input output
  · rw [hformat]
    exact node?_prepare_eq_file_iff s output f.overwrite k content
  · have hsave := node?_save_of_ne hdots (s.prepare output f.overwrite).1 (.workbook workbook)
      (by rwa [outputPlace_prepare]) (by rwa [partialPlace_prepare])
    rw [hformat, hsave]
    exact node?_prepare_eq_file_iff s output f.overwrite k content

/-- A report that is told of was made of the files as they are once its directories are there, for
a path that can name a file, and stands at its place alone. -/
theorem saved_of_format_eq_ok {summary : ReportSummary}
    (hok : (f.format s input output).2 = .ok summary) :
    (s.prepare output f.overwrite).2 = .ok () ∧ Path.isDirectoryOnly output = false ∧
      ∃ workbook, f.report (s.prepare output f.overwrite).1 input output = .ok (workbook, summary) ∧
        (f.format s input output).1.content? output = some (.workbook workbook) ∧
        (f.format s input output).1.node? (s.outputPlace output) =
          some (.file (.workbook workbook)) ∧
        (f.format s input output).1.node? (s.partialPlace output) = none := by
  obtain ⟨error, hformat⟩ | ⟨workbook, summary', hprepare, hreport, hformat⟩ :=
    format_stages f s input output
  · rw [hformat] at hok
    contradiction
  · rw [hformat] at hok ⊢
    obtain ⟨hsave, rfl⟩ := eq_ok_of_savedReport hok
    obtain ⟨hfile, hplace, htemporary⟩ := node?_of_save_ok hdots _ _ hsave
    rw [outputPlace_prepare] at hplace
    rw [partialPlace_prepare] at htemporary
    exact ⟨hprepare, hfile, workbook, hreport, content?_of_save (Prod.ext rfl hsave), hplace,
      htemporary⟩

/-- Where a report fails, what stands at its place and in it is as it was, except for the temporary
file, and so is what stands at the place of that unless it is gone. -/
theorem node?_of_format_error {error : RunError}
    (herror : (f.format s input output).2 = .error error) :
    (∀ k, s.outputPlace output <+: k → k ≠ s.partialPlace output →
        (f.format s input output).1.node? k = s.node? k) ∧
      ((f.format s input output).1.node? (s.partialPlace output) =
          s.node? (s.partialPlace output) ∨
        (f.format s input output).1.node? (s.partialPlace output) = none) := by
  obtain ⟨error', hformat⟩ | ⟨workbook, summary, -, -, hformat⟩ := format_stages f s input output
  · rw [hformat]
    exact ⟨fun k hk _ => node?_prepare hdots s f.overwrite (.inl hk),
      .inl (node?_prepare hdots s f.overwrite (.inr rfl))⟩
  · rw [hformat] at herror ⊢
    obtain ⟨error', hsave⟩ := exists_error_of_savedReport herror
    obtain ⟨hplace, htemporary⟩ := node?_of_save_error hdots _ _ hsave
    rw [outputPlace_prepare, node?_prepare hdots s f.overwrite (.inl (List.prefix_refl _))] at hplace
    rw [partialPlace_prepare, node?_prepare hdots s f.overwrite (.inr rfl)] at htemporary
    refine ⟨fun k hk hne => ?_, htemporary⟩
    by_cases heq : k = s.outputPlace output
    · rw [heq, hplace]
    · rw [node?_save_of_ne hdots _ _ (by rwa [outputPlace_prepare]) (by rwa [partialPlace_prepare]),
        node?_prepare hdots s f.overwrite (.inl hk)]

/-- Where nothing may be overwritten, no report is told of for a place at which something stands. -/
theorem exists_error_of_node? (hf : f.overwrite = false)
    (hnode : s.node? (s.outputPlace output) ≠ none) :
    ∃ error, (f.format s input output).2 = .error error := by
  cases hresult : (f.format s input output).2 with
  | error error => exact ⟨error, rfl⟩
  | ok summary =>
    obtain ⟨hprepare, hfile, workbook, -, hcontent, -⟩ := saved_of_format_eq_ok hdots hresult
    have hpath : output ≠ "" := by
      rintro rfl
      rw [show Path.isDirectoryOnly "" = true from by decide] at hfile
      contradiction
    -- the path names a file, so what stands at its place is found by it
    obtain ⟨node, hnode⟩ := Option.ne_none_iff_exists'.mp hnode
    have hcontains : s.contains output = true := by
      rw [contains, find?_eq_filter hdots s hpath, hnode, hfile]
      simp
    rw [prepare, hcontains, hf] at hprepare
    contradiction

end Places

/-- What a path leads to is what it was, as a file or as a directory with all in it; a temporary
file of the path does not count. -/
structure KeepsOutput (path : String) (s t : FileStore) : Prop where
  find?_eq : t.find? path = s.find? path
  node?_eq : ∀ k, s.outputPlace path <+: k → k ≠ s.partialPlace path → t.node? k = s.node? k

/-- A report that fails keeps its output. -/
theorem keepsOutput_of_format_error (hdots : ".." ∉ Path.steps output) {error : RunError}
    (herror : (f.format s input output).2 = .error error) :
    KeepsOutput output s (f.format s input output).1 := by
  obtain ⟨hnode, -⟩ := node?_of_format_error hdots herror
  have hplace := hnode _ (List.prefix_refl _) (partialPlace_ne_outputPlace hdots s).symm
  exact ⟨find?_congr hdots start_format hplace, hnode⟩

/-- Making a report is all or nothing. If it is told of, the output holds the whole report, and no
temporary file is left beside it. If it fails at any stage, the output is what it was and no
temporary file is new. In both cases no other file comes, goes or changes, and without leave to
overwrite, whatever stood at the place of the output stays as it was. -/
theorem format_is_all_or_nothing (f : Formatter) (s : FileStore) (input output : String)
    (hdots : ".." ∉ Path.steps output) :
    let final := (f.format s input output).1
    (∀ summary, (f.format s input output).2 = .ok summary →
      ∃ workbook, f.report (s.prepare output f.overwrite).1 input output = .ok (workbook, summary) ∧
        final.content? output = some (.workbook workbook) ∧
        ∃ dir name, s.outputPlace output = dir ++ [name] ∧
          final.node? (dir ++ [name]) = some (.file (.workbook workbook)) ∧
          s.partialPlace output = dir ++ [partialName name] ∧
          final.node? (dir ++ [partialName name]) = none) ∧
    (∀ error, (f.format s input output).2 = .error error →
      KeepsOutput output s final ∧
        ∀ content, final.node? (s.partialPlace output) = some (.file content) →
          s.node? (s.partialPlace output) = some (.file content)) ∧
    (∀ k content, k ≠ s.outputPlace output → k ≠ s.partialPlace output →
      (final.node? k = some (.file content) ↔ s.node? k = some (.file content))) ∧
    (f.overwrite = false → s.node? (s.outputPlace output) ≠ none → KeepsOutput output s final) := by
  intro final
  refine ⟨fun summary hok => ?_, fun error herror => ?_, fun k content hk htemporary => ?_,
    fun hf hnode => ?_⟩
  · obtain ⟨-, hfile, workbook, hreport, hcontent, hplace, htemporary⟩ :=
      saved_of_format_eq_ok hdots hok
    obtain ⟨dir, name, hname⟩ := Path.exists_namesFile hfile
    have hout : s.outputPlace output = s.start output ++ dir ++ [name] := by
      rw [outputPlace, hname.steps_eq, List.append_assoc]
    have hpartial : s.partialPlace output = s.start output ++ dir ++ [partialName name] := by
      rw [partialPlace, partialSteps_eq hname, List.append_assoc]
    exact ⟨workbook, hreport, hcontent, _, name, hout, hout ▸ hplace, hpartial,
      hpartial ▸ htemporary⟩
  · refine ⟨keepsOutput_of_format_error hdots herror, fun content hcontent => ?_⟩
    rcases (node?_of_format_error hdots herror).2 with hsame | hnone
    · rwa [hsame] at hcontent
    · exact absurd (hnone.symm.trans hcontent) (by simp)
  · exact node?_format_eq_file_iff hdots hk htemporary content
  · obtain ⟨error, herror⟩ := exists_error_of_node? hdots hf hnode
    exact keepsOutput_of_format_error hdots herror

namespace OldReport

/-- A workbook with one sheet of texts under the names of their cells. -/
def workbook (name : String) (texts : List (String × String)) : Workbook :=
  { sheets := [{ name := name
                 cells := .ofList (texts.filterMap fun e =>
                   (Cell.ofName? e.1).map fun c => (c, { content := .text e.2 })) }] }

/-- An input, a template, and an old report with a temporary file beside it. -/
def files : FileStore :=
  .ofList [("a.xlsx", .file (.workbook
      (workbook "Report data" [("A1", "Line Item"), ("A2", "ORD-1-1-1")]))),
    ("old/.report.xlsx.partial", .file (.text "left")), ("old/report.xlsx", .file (.text "old")),
    ("template.xlsx", .file (.workbook (workbook "Report"
      [("A1", "<header_start>"), ("A2", "<data_start>"), ("A3", "<data_end>")])))]

/-- The settings for reports of a single column. -/
def settings : Settings :=
  { template := "template.xlsx", requiredColumns := ["Line Item"], reportColumns := ["Line Item"] }

/-- The formatter that may overwrite the old report. -/
def formatter : Formatter :=
  (Formatter.ofSettings files settings true).toOption.get (by decide +kernel)

end OldReport

/-- An old report is replaced as a whole, the temporary file beside it is gone, and the input is
what it was. -/
theorem oldReport_is_replaced :
    ".." ∉ Path.steps "old/report.xlsx" ∧ ∃ summary workbook,
      (OldReport.formatter.format OldReport.files "a.xlsx" "old/report.xlsx").2 = .ok summary ∧
      (OldReport.formatter.format OldReport.files "a.xlsx" "old/report.xlsx").1.content?
        "old/report.xlsx" = some (.workbook workbook) ∧
      (OldReport.formatter.format OldReport.files "a.xlsx" "old/report.xlsx").1.node?
        ["home", "reports", "old", ".report.xlsx.partial"] = none ∧
      (OldReport.formatter.format OldReport.files "a.xlsx" "old/report.xlsx").1.node?
          ["home", "reports", "a.xlsx"] =
        OldReport.files.node? ["home", "reports", "a.xlsx"] := by
  have hdots : ".." ∉ Path.steps "old/report.xlsx" := by decide
  have hsome : (OldReport.formatter.format OldReport.files "a.xlsx"
      "old/report.xlsx").2.toOption.isSome = true := by decide +kernel
  obtain ⟨summary, hsummary⟩ := Option.isSome_iff_exists.mp hsome
  have hok := eq_ok_of_toOption hsummary
  obtain ⟨hsaved, -, hothers, -⟩ :=
    format_is_all_or_nothing OldReport.formatter OldReport.files "a.xlsx" "old/report.xlsx" hdots
  obtain ⟨workbook, -, hcontent, dir, name, hplace, -, -, htemporary⟩ := hsaved summary hok
  have hplaces : OldReport.files.outputPlace "old/report.xlsx" =
        ["home", "reports", "old"] ++ ["report.xlsx"] ∧
      ["home", "reports", "a.xlsx"] ≠ OldReport.files.outputPlace "old/report.xlsx" ∧
      ["home", "reports", "a.xlsx"] ≠ OldReport.files.partialPlace "old/report.xlsx" := by
    decide +kernel
  obtain ⟨hdir, hout, hpartial⟩ := hplaces
  obtain ⟨rfl, hname⟩ := List.append_singleton_inj.mp (hplace.symm.trans hdir)
  subst hname
  have hinput := (hothers ["home", "reports", "a.xlsx"] _ hout hpartial).mpr rfl
  exact ⟨hdots, summary, workbook, hok, hcontent, htemporary, hinput⟩

end SheetReport.Formatter
