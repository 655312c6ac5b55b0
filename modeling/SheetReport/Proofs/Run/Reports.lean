import SheetReport.Proofs.Run.AllOrNothing
import SheetReport.Proofs.Run.Independence
import SheetReport.Proofs.Sequence

/-!
# What a run leaves behind

The reports of a run that starts are those that its inputs would have alone, in any order, and
the files afterwards do not depend on the order either. The summary tells of every input once,
the exit code is zero exactly if every output is new, and no other file changes than temporary
ones. Nothing is assumed of the inputs and the template: the paths of the outputs must not lead
upwards, and the picture must not be a temporary file itself.
-/

namespace SheetReport

open FileStore (Keeps)
open SheetReport.Path (NamesFile partialName)

/-- The paths of the outputs do not lead upwards, and the picture has not the name of a temporary
file. -/
structure Settings.HasPlainPaths (s : Settings) : Prop where
  outputs : ".." ∉ Path.segments s.outputs
  outputPrefix : ".." ∉ Path.segments s.outputPrefix
  icon : ∀ icon ∈ s.icon, ∀ name, Path.fileName? icon ≠ some (partialName name)

namespace Settings

variable {s : Settings} {files : FileStore} {inputs : List String}

/-- All outputs are named after one path, which tells their directory. -/
theorem exists_namesFile_outputPath (h : s.HasPlainPaths) :
    ∃ dir start, ".." ∉ dir ∧ ∀ input name, Path.fileName? input = some name →
      '/' ∉ name.toList → start ++ name ∉ ["", ".", ".."] →
        NamesFile (s.outputPath input) dir (start ++ name) ∧
          Path.isAbsolute (s.outputPath input) =
            Path.isAbsolute (Path.join s.outputs s.outputPrefix) := by
  obtain ⟨dir, start, hdir, hnames⟩ :=
    Path.exists_namesFile_append (Path.join s.outputs s.outputPrefix)
  refine ⟨dir, start, fun hmem => ?_, fun input name hinput hfree hdots => ?_⟩
  · exact (Path.mem_segments_join (hdir _ hmem)).elim h.outputs h.outputPrefix
  · have hpath : s.outputPath input = Path.join s.outputs s.outputPrefix ++ name := by
      rw [outputPath, hinput, Option.getD_some, Path.join_append _ _ hfree]
    rw [hpath, Path.isAbsolute_append fun _ => Path.isAbsolute_of_slashFree hfree]
    exact ⟨hnames name hfree hdots, rfl⟩

/-- The outputs of a run lie in one directory under different names, and none of the names is that
of a temporary file of another. -/
theorem exists_outputs (h : s.HasPlainPaths) (hinputs : discoverInputs files s.inputs = .ok inputs) :
    ∃ (name : String → String) (dir : List String) (l : Location), ".." ∉ dir ∧
      (∀ i ∈ inputs, NamesFile (s.outputPath i) dir (name i) ∧
        files.start (s.outputPath i) = l) ∧
      ∀ i ∈ inputs, ∀ j ∈ inputs,
        (name i = name j → i = j) ∧ name i ≠ partialName (name j) := by
  obtain ⟨-, hdiscovered⟩ := exists_of_discoverInputs hinputs
  obtain ⟨dir, start, hdots, hnames⟩ := exists_namesFile_outputPath h
  have hnonempty {n : String} (hvalid : Location.isName n = true) : n ≠ "" := by
    rintro rfl
    exact (Location.slashFree_of_isName hvalid).2 (by simp)
  refine ⟨fun i => start ++ (Path.fileName? i).getD "", dir,
    files.start (Path.join s.outputs s.outputPrefix), hdots, fun i hi => ?_, fun i hi j hj => ?_⟩
  · obtain ⟨n, -, -, -, hn, hvalid, hinput, -⟩ := hdiscovered i hi
    obtain ⟨hnamesFile, habsolute⟩ := hnames i n hn (Location.slashFree_of_isName hvalid).1
      (append_notMem_dots (hnonempty hvalid) hinput start)
    simp only [hn, Option.getD_some]
    refine ⟨hnamesFile, ?_⟩
    rw [FileStore.start, habsolute, FileStore.start]
  · obtain ⟨n, -, -, hni, hn, hvalid, hinput, -⟩ := hdiscovered i hi
    obtain ⟨m, -, -, hmj, hm, -⟩ := hdiscovered j hj
    simp only [hn, hm, Option.getD_some]
    refine ⟨fun heq => ?_, append_ne_partialName (hnonempty hvalid) hinput start m⟩
    rw [hni, hmj, (String.append_right_inj start).mp heq]

/-- The picture of a run is a file, and no temporary one. -/
theorem icon_of_styleRules (h : s.HasPlainPaths) {icon : String}
    (hicon : (s.styleRules files).icon = some icon) :
    (files.content? icon).isSome = true ∧
      ∀ l d name, files.locate? icon = some l → l ≠ d ++ [partialName name] := by
  obtain ⟨hsome, hthere⟩ := Option.filter_eq_some_iff.mp hicon
  refine ⟨hthere, fun l d name hlocate heq => ?_⟩
  obtain ⟨content, hcontent⟩ := Option.isSome_iff_exists.mp hthere
  obtain ⟨dir, last, hnames⟩ :=
    Path.exists_namesFile (FileStore.content?_eq_some_iff.mp hcontent).1
  rw [FileStore.locate?_eq hnames, Option.bind_eq_some_iff] at hlocate
  obtain ⟨l', -, hl⟩ := hlocate
  split_ifs at hl
  rw [heq] at hl
  have hlast := (List.append_singleton_inj.mp (Option.some.inj hl)).2
  exact h.icon icon hsome name (hlast ▸ hnames.fileName?_eq)

end Settings

namespace Formatter

variable {f : Formatter} {files : FileStore} {s : Settings} {inputs : List String}

/-- What a formatter takes from its settings. -/
theorem ofSettings_eq_ok (h : ofSettings files s false = .ok f) :
    f.settings = s ∧ f.style = s.styleRules files ∧ f.overwrite = false := by
  unfold ofSettings at h
  split at h
  · contradiction
  · obtain ⟨template, -, h⟩ := bind_eq_ok_iff.mp h
    obtain ⟨-, -, h⟩ := bind_eq_ok_iff.mp h
    obtain rfl := Except.ok.inj h
    exact ⟨rfl, rfl, rfl⟩

/-- A report that is read from files that are kept does not change. -/
theorem report_eq_of_keeps {temporary : Set Location} {t : FileStore} {i : String}
    {content : FileContent} (hkeeps : Keeps temporary files t)
    (hcontent : files.content? i = some content)
    (hi : ∀ l, files.locate? i = some l → l ∉ temporary)
    (hicon : ∀ icon, f.style.icon = some icon → (files.content? icon).isSome = true ∧
      ∀ l, files.locate? icon = some l → l ∉ temporary) (output : String) :
    f.report t i output = f.report files i output := by
  refine report_congr ?_ (fun icon hsome => ?_) output
  · rw [hkeeps.content? hcontent hi, hcontent]
  · obtain ⟨hthere, hl⟩ := hicon icon hsome
    obtain ⟨shown, hshown⟩ := Option.isSome_iff_exists.mp hthere
    rw [hkeeps.content? hshown hl, hshown]

/-- Neither the inputs of a run nor its picture are temporary files, so a report does not change
as long as everything else is kept. -/
theorem report_eq_of_keeps_temporaries (hplain : s.HasPlainPaths)
    (hinputs : discoverInputs files s.inputs = .ok inputs) (hf : ofSettings files s false = .ok f)
    {d : Location} {name : String → String} {t : FileStore}
    (ht : Keeps (temporaries d name inputs) files t) {i : String} (hi : i ∈ inputs)
    (output : String) : f.report t i output = f.report files i output := by
  obtain ⟨-, hstyle, -⟩ := ofSettings_eq_ok hf
  obtain ⟨-, hdiscovered⟩ := exists_of_discoverInputs hinputs
  obtain ⟨n, l, content, -, -, -, hinput, hlocate, hcontent⟩ := hdiscovered i hi
  refine report_eq_of_keeps ht hcontent (fun k hk hmem => ?_) (fun icon hicon => ?_) output
  · obtain ⟨j, -, rfl⟩ := hmem
    rw [hlocate] at hk
    rw [(List.append_singleton_inj.mp (Option.some.inj hk)).2, isInputName_partialName] at hinput
    contradiction
  · rw [hstyle] at hicon
    obtain ⟨hthere, hplace⟩ := Settings.icon_of_styleRules hplain hicon
    refine ⟨hthere, fun k hk hmem => ?_⟩
    obtain ⟨j, -, rfl⟩ := hmem
    exact hplace _ _ _ hk rfl

/-- After the directories for the outputs were created, the reports of a run can be made one
after another. -/
theorem exists_run (hplain : s.HasPlainPaths) (hinputs : discoverInputs files s.inputs = .ok inputs)
    (hf : ofSettings files s false = .ok f) :
    ∃ (name : String → String) (dir : List String) (l : Location),
      (∀ i ∈ inputs, files.start (s.outputPath i) = l) ∧
      (∀ i ∈ inputs, f.report (files.makeDirectories l dir).1 i (s.outputPath i) =
        f.report files i (s.outputPath i)) ∧
      f.Run inputs name dir (l ++ dir) (files.makeDirectories l dir).1 := by
  obtain ⟨rfl, -, hoverwrite⟩ := ofSettings_eq_ok hf
  obtain ⟨name, dir, l, hdots, houtputs, hdifferent⟩ := Settings.exists_outputs hplain hinputs
  have hreport (i : String) (hi : i ∈ inputs) (t : FileStore)
      (ht : Keeps (temporaries (l ++ dir) name inputs) files t) :
      f.report t i (f.settings.outputPath i) = f.report files i (f.settings.outputPath i) :=
    report_eq_of_keeps_temporaries hplain hinputs hf ht hi _
  have hmade := (FileStore.keeps_makeDirectories files l dir).mono
    (Set.empty_subset (temporaries (l ++ dir) name inputs))
  have hstart (i : String) (hi : i ∈ inputs) :
      (files.makeDirectories l dir).1.start (f.settings.outputPath i) = l := by
    rw [hmade.start_eq, (houtputs i hi).2]
  refine ⟨name, dir, l, fun i hi => (houtputs i hi).2, fun i hi => hreport i hi _ hmade, ?_⟩
  exact {
    overwrite_eq := hoverwrite
    dots_notMem := hdots
    namesFile := fun i hi => (houtputs i hi).1
    name_inj := fun i hi j hj => (hdifferent i hi j hj).1
    name_ne_partialName := fun i hi j hj => (hdifferent i hi j hj).2
    start_eq := fun i hi => by rw [hstart i hi]
    isPrepared := fun i hi => by
      rw [hstart i hi]
      exact FileStore.isPrepared_makeDirectories hdots ((houtputs i hi).2 ▸ files.hasDirectory_start _)
    report_eq := fun i hi t ht => by rw [hreport i hi t (hmade.trans ht), hreport i hi _ hmade] }

namespace Run

variable {name : String → String} {dir : List String} {l : Location} {order : List String}
  (h : f.Run inputs name dir (l ++ dir) (files.makeDirectories l dir).1)
  (hstart : ∀ i ∈ inputs, files.start (f.settings.outputPath i) = l)
include h hstart

/-- A report is the same before the directories were created. -/
theorem formatOne_makeDirectories {i : String} (hi : i ∈ inputs) :
    f.formatOne (files.makeDirectories l dir).1 i = f.formatOne files i := by
  have hformat : f.format (files.makeDirectories l dir).1 i (f.settings.outputPath i) =
      f.format files i (f.settings.outputPath i) := by
    rw [← hstart i hi]
    exact format_makeDirectories h.overwrite_eq (h.namesFile i hi) h.dots_notMem
  refine Prod.ext ?_ ?_
  · rw [fst_formatOne, hformat, fst_formatOne]
  · rw [snd_formatOne, hformat, snd_formatOne]

/-- Several reports are the same before the directories were created, if there are any. -/
theorem formatAll_makeDirectories (hsubset : order ⊆ inputs) (hne : order ≠ []) :
    f.formatAll (files.makeDirectories l dir).1 order = f.formatAll files order := by
  cases order with
  | nil => exact absurd rfl hne
  | cons i rest =>
    rw [Formatter.formatAll,
      h.formatOne_makeDirectories hstart (hsubset List.mem_cons_self)]
    rfl

/-- The summaries of several reports are those of each alone. -/
theorem snd_formatAll (hnodup : order.Nodup) (hsubset : order ⊆ inputs) :
    (f.formatAll files order).2 = order.map fun i => (f.formatOne files i).2 := by
  by_cases hne : order = []
  · subst hne
    rfl
  · rw [← h.formatAll_makeDirectories hstart hsubset hne, (h.formatAll hnodup hsubset).1]
    refine List.map_congr_left fun i hi => ?_
    rw [h.formatOne_makeDirectories hstart (hsubset hi)]

/-- The files after several reports do not depend on their order. -/
theorem fst_formatAll (hnodup : inputs.Nodup) (hperm : order.Perm inputs) :
    (f.formatAll files order).1 = (f.formatAll files inputs).1 := by
  by_cases hne : inputs = []
  · obtain rfl : order = [] := List.perm_nil.mp (hne ▸ hperm)
    rw [hne]
  · rw [← h.formatAll_makeDirectories hstart hperm.subset fun hnil => hne (List.perm_nil.mp
        (hnil ▸ hperm.symm)), ← h.formatAll_makeDirectories hstart (List.Subset.refl _) hne,
      h.fst_formatAll_perm hnodup hperm]

/-- Several reports keep all files that are not temporary. -/
theorem keeps_formatAll (hnodup : inputs.Nodup) :
    Keeps (temporaries (l ++ dir) name inputs) files (f.formatAll files inputs).1 := by
  by_cases hne : inputs = []
  · rw [hne]
    exact .refl _ files
  · obtain ⟨-, hkeeps, -⟩ := h.formatAll hnodup (List.Subset.refl inputs)
    rw [← h.formatAll_makeDirectories hstart (List.Subset.refl _) hne]
    exact ((FileStore.keeps_makeDirectories files l dir).mono (Set.empty_subset _)).trans hkeeps

/-- There is a report of an input exactly if its output is new after the run and holds what was
made of the input. -/
theorem isSuccess_iff_new (hnodup : inputs.Nodup) {i : String} (hi : i ∈ inputs)
    (hreport : f.report (files.makeDirectories l dir).1 i (f.settings.outputPath i) =
      f.report files i (f.settings.outputPath i)) :
    (f.formatOne files i).2.isSuccess = true ↔
      files.contains (f.settings.outputPath i) = false ∧ ∃ workbook summary,
        f.report files i (f.settings.outputPath i) = .ok (workbook, summary) ∧
          (f.formatAll files inputs).1.content? (f.settings.outputPath i) =
            some (.workbook workbook) := by
  have hnames := h.namesFile i hi
  have hcontains : files.contains (f.settings.outputPath i) = false ↔
      (files.makeDirectories l dir).1.node? (l ++ dir ++ [name i]) = none := by
    rw [FileStore.contains_eq hnames h.dots_notMem, hstart i hi,
      FileStore.node?_makeDirectories_concat h.dots_notMem, Option.isSome_eq_false_iff,
      Option.isNone_iff_eq_none]
  have hcontent (content : FileContent) :
      (f.formatAll files inputs).1.content? (f.settings.outputPath i) = some content ↔
        (f.formatOne (files.makeDirectories l dir).1 i).1.node? (l ++ dir ++ [name i]) =
          some (.file content) := by
    obtain ⟨-, -, hplaces, -⟩ := h.formatAll hnodup (List.Subset.refl inputs)
    rw [FileStore.content?_eq_some_iff_node? hnames h.dots_notMem,
      (h.keeps_formatAll hstart hnodup).start_eq, hstart i hi,
      ← h.formatAll_makeDirectories hstart (List.Subset.refl _) (List.ne_nil_of_mem hi),
      hplaces i hi _ (by simp [places])]
  rw [← h.formatOne_makeDirectories hstart hi, h.isSuccess_formatOne_iff hi, hcontains, hreport]
  simp only [hcontent]

/-- After a run every file is there that was there before and is not temporary. -/
theorem node?_formatAll (hnodup : inputs.Nodup) {k : Location} {content : FileContent}
    (hk : ∀ i ∈ inputs,
      k ≠ files.start (f.settings.outputPath i) ++ FileStore.partialSteps (f.settings.outputPath i))
    (hnode : files.node? k = some (.file content)) :
    (f.formatAll files inputs).1.node? k = some (.file content) := by
  refine (h.keeps_formatAll hstart hnodup).file k content (fun hmem => ?_) hnode
  obtain ⟨i, hi, rfl⟩ := hmem
  refine hk i hi ?_
  rw [hstart i hi, FileStore.partialSteps_eq (h.namesFile i hi), List.append_assoc]

end Run

end Formatter

/-- The exit code is zero exactly if every input has a report. -/
theorem RunSummary.exitCode_eq_zero_iff {summary : RunSummary} :
    summary.exitCode = 0 ↔ ∀ report ∈ summary.reports, report.isSuccess = true := by
  simp [exitCode, failed]

/-- A run that starts has inputs and a formatter, and sums up the reports. -/
theorem runSettings_eq_ok {files final : FileStore} {s : Settings} {overwrite : Bool}
    {summary : RunSummary} (h : runSettings files s overwrite = (final, .ok summary)) :
    ∃ inputs f, discoverInputs files s.inputs = .ok inputs ∧
      Formatter.ofSettings files s overwrite = .ok f ∧
      final = (f.formatAll files inputs).1 ∧ summary.reports = (f.formatAll files inputs).2 := by
  unfold runSettings at h
  split at h
  · have hresult := congrArg Prod.snd h
    contradiction
  · rename_i inputs f hstart
    obtain ⟨inputs', hinputs, hstart⟩ := bind_eq_ok_iff.mp hstart
    obtain ⟨f', hf, hstart⟩ := bind_eq_ok_iff.mp hstart
    obtain ⟨rfl, rfl⟩ := Prod.mk.inj (Except.ok.inj hstart)
    refine ⟨inputs', f', hinputs, hf, (congrArg Prod.fst h).symm, ?_⟩
    exact congrArg RunSummary.reports (Except.ok.inj (congrArg Prod.snd h)).symm

/-- With inputs and a formatter a run starts. -/
theorem runSettings_of_ok {files : FileStore} {s : Settings} {overwrite : Bool}
    {inputs : List String} {f : Formatter} (hinputs : discoverInputs files s.inputs = .ok inputs)
    (hf : Formatter.ofSettings files s overwrite = .ok f) :
    runSettings files s overwrite =
      ((f.formatAll files inputs).1, .ok ⟨(f.formatAll files inputs).2⟩) := by
  simp only [runSettings, hinputs, hf, bind, Except.bind, Formatter.run]

/-- The reports of a run that starts are independent of each other. In whatever order they are
made, the files afterwards are the same and each summary is that of the input alone. The summary
of the run tells of every input once and in order; the exit code is zero exactly if every output
is new and holds what was made of its input; and every file that was there before is there after,
unless it lies where the temporary file of an output does. -/
theorem reports_of_run_are_independent {files final : FileStore} {s : Settings}
    {summary : RunSummary} (hplain : s.HasPlainPaths)
    (hrun : runSettings files s false = (final, .ok summary)) :
    ∃ inputs f, discoverInputs files s.inputs = .ok inputs ∧
      Formatter.ofSettings files s false = .ok f ∧
      (∀ order, order.Perm inputs → (f.formatAll files order).1 = final ∧
        (f.formatAll files order).2 = order.map fun i => (f.formatOne files i).2) ∧
      summary.reports = inputs.map (fun i => (f.formatOne files i).2) ∧
      summary.reports.map (·.input) = inputs ∧
      summary.formatted + summary.failed = inputs.length ∧
      (summary.exitCode = 0 ↔ ∀ i ∈ inputs, files.contains (s.outputPath i) = false ∧
        ∃ workbook report, f.report files i (s.outputPath i) = .ok (workbook, report) ∧
          final.content? (s.outputPath i) = some (.workbook workbook)) ∧
      ∀ l content, files.node? l = some (.file content) →
        (∀ i ∈ inputs,
          l ≠ files.start (s.outputPath i) ++ FileStore.partialSteps (s.outputPath i)) →
        final.node? l = some (.file content) := by
  obtain ⟨inputs, f, hinputs, hf, rfl, hreports⟩ := runSettings_eq_ok hrun
  obtain ⟨hnodup, -⟩ := exists_of_discoverInputs hinputs
  obtain ⟨name, dir, l, hstart, hreport, h⟩ := Formatter.exists_run hplain hinputs hf
  obtain ⟨rfl, -⟩ := Formatter.ofSettings_eq_ok hf
  have hsummaries := h.snd_formatAll hstart hnodup (List.Subset.refl inputs)
  rw [hsummaries] at hreports
  have hlength : summary.reports.length = inputs.length := by rw [hreports, List.length_map]
  refine ⟨inputs, f, hinputs, hf, fun order hperm => ⟨?_, ?_⟩, hreports, ?_, ?_, ?_, ?_⟩
  · exact h.fst_formatAll hstart hnodup hperm
  · exact h.snd_formatAll hstart (hperm.nodup_iff.mpr hnodup) hperm.subset
  · rw [hreports, List.map_map]
    exact (List.map_congr_left fun i _ => Formatter.input_formatOne).trans (List.map_id _)
  · rw [RunSummary.formatted_add_failed, hlength]
  · rw [RunSummary.exitCode_eq_zero_iff, hreports, List.forall_mem_map]
    exact forall₂_congr fun i hi => h.isSuccess_iff_new hstart hnodup hi (hreport i hi)
  · exact fun k content hnode hk => h.node?_formatAll hstart hnodup hk hnode

namespace TwoInputs

/-- The template of the small report in a stored sheet. -/
def template : Workbook :=
  { sheets := [{ name := "Report"
                 cells := .ofList (SmallReport.template.entries.map fun e =>
                   (e.1, { content := e.2.content })) }] }

/-- A template and two inputs: one has a record, and the other one is no workbook. -/
def files : FileStore :=
  .ofList [("inputs/a.xlsx", .file (.workbook
      (Formatter.OldReport.workbook "Report data" [("A1", "Line Item"), ("A2", "ORD-1-1-1")]))),
    ("inputs/b.xlsx", .file .unknown), ("template.xlsx", .file (.workbook template))]

/-- The settings for reports of a single column. -/
def settings : Settings :=
  { template := "template.xlsx", requiredColumns := ["Line Item"], reportColumns := ["Line Item"] }

/-- The formatter of the run. -/
def formatter : Formatter :=
  (Formatter.ofSettings files settings false).toOption.get (by decide +kernel)

/-- Both inputs are found. -/
theorem discoverInputs_eq :
    discoverInputs files settings.inputs = .ok ["inputs/a.xlsx", "inputs/b.xlsx"] := by
  refine eq_ok_of_toOption ?_
  decide +kernel

/-- The run starts. -/
theorem ofSettings_eq : Formatter.ofSettings files settings false = .ok formatter :=
  eq_ok_of_toOption (Option.some_get _).symm

/-- The settings name plain paths. -/
theorem hasPlainPaths : settings.HasPlainPaths where
  outputs := by decide
  outputPrefix := by decide
  icon icon hicon name hname := by
    obtain rfl := Option.mem_some_iff.mp hicon
    have hicon : Path.fileName? "assets/icon.png" = some "icon.png" := by decide
    rw [hicon] at hname
    have hhead := Path.head?_partialName name
    rw [← Option.some.inj hname] at hhead
    exact absurd hhead (by decide)

/-- After the run the output of the first input is new and holds the report that was made of it. -/
theorem exists_report_eq :
    files.contains (settings.outputPath "inputs/a.xlsx") = false ∧ ∃ workbook report,
      formatter.report files "inputs/a.xlsx" (settings.outputPath "inputs/a.xlsx") =
        .ok (workbook, report) ∧
      (formatter.formatAll files ["inputs/a.xlsx", "inputs/b.xlsx"]).1.content?
        (settings.outputPath "inputs/a.xlsx") = some (.workbook workbook) := by
  obtain ⟨hnodup, -⟩ := exists_of_discoverInputs discoverInputs_eq
  obtain ⟨hsettings, -⟩ := Formatter.ofSettings_eq_ok ofSettings_eq
  obtain ⟨name, dir, l, hstart, hreport, h⟩ :=
    Formatter.exists_run hasPlainPaths discoverInputs_eq ofSettings_eq
  have hsuccess : (formatter.formatOne files "inputs/a.xlsx").2.isSuccess = true := by
    decide +kernel
  rw [← hsettings] at hstart hreport ⊢
  exact (h.isSuccess_iff_new hstart hnodup List.mem_cons_self
    (hreport _ List.mem_cons_self)).mp hsuccess

end TwoInputs

/-- The run on a workbook and another file ends alike in both orders and leaves the template. The
report of the workbook stands at its output, although there is none of the other file. -/
theorem twoInputs_reports_are_independent :
    TwoInputs.settings.HasPlainPaths ∧ ∃ final summary workbook report,
      runSettings TwoInputs.files TwoInputs.settings false = (final, .ok summary) ∧
      Formatter.ofSettings TwoInputs.files TwoInputs.settings false = .ok TwoInputs.formatter ∧
      (TwoInputs.formatter.formatAll TwoInputs.files ["inputs/b.xlsx", "inputs/a.xlsx"]).1 =
        final ∧
      summary.reports = [(TwoInputs.formatter.formatOne TwoInputs.files "inputs/a.xlsx").2,
        (TwoInputs.formatter.formatOne TwoInputs.files "inputs/b.xlsx").2] ∧
      summary.formatted = 1 ∧ summary.failed = 1 ∧
      TwoInputs.formatter.report TwoInputs.files "inputs/a.xlsx" "outputs/formatted_a.xlsx" =
        .ok (workbook, report) ∧
      final.content? "outputs/formatted_a.xlsx" = some (.workbook workbook) ∧
      final.node? ["home", "reports", "template.xlsx"] =
        some (.file (.workbook TwoInputs.template)) := by
  have hrun := runSettings_of_ok TwoInputs.discoverInputs_eq TwoInputs.ofSettings_eq
  obtain ⟨inputs, f, hinputs, hf, horder, hreports, -, hcount, -, hfiles⟩ :=
    reports_of_run_are_independent TwoInputs.hasPlainPaths hrun
  obtain rfl := Except.ok.inj (hinputs.symm.trans TwoInputs.discoverInputs_eq)
  obtain rfl := Except.ok.inj (hf.symm.trans TwoInputs.ofSettings_eq)
  obtain ⟨-, workbook, report, hreport, hcontent⟩ := TwoInputs.exists_report_eq
  have hfailed : RunSummary.failed ⟨(TwoInputs.formatter.formatAll TwoInputs.files
      ["inputs/a.xlsx", "inputs/b.xlsx"]).2⟩ = 1 := by
    decide +kernel
  have houtput : TwoInputs.settings.outputPath "inputs/a.xlsx" = "outputs/formatted_a.xlsx" := by
    decide
  rw [houtput] at hreport hcontent
  refine ⟨TwoInputs.hasPlainPaths, _, _, workbook, report, hrun, hf,
    (horder _ (List.Perm.swap _ _ _)).1, hreports, ?_, hfailed, hreport, hcontent, ?_⟩
  · exact Nat.add_right_cancel (hcount.trans (congrArg (1 + ·) hfailed).symm)
  · have hplaces : ∀ i ∈ ["inputs/a.xlsx", "inputs/b.xlsx"],
        (["home", "reports", "template.xlsx"] : Location) ≠
          TwoInputs.files.start (TwoInputs.settings.outputPath i) ++
            FileStore.partialSteps (TwoInputs.settings.outputPath i) := by
      decide +kernel
    exact hfiles _ _ rfl hplaces

end SheetReport
