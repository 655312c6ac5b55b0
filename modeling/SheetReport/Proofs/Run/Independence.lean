import SheetReport.Proofs.Run.Discovery
import SheetReport.Proofs.Run.Output

/-!
# The reports of a run are independent

All outputs of a run lie in one directory under names of their own, and so do the temporary files
beside them. A report changes what stands at its own two places and reads nothing that another
report changes: inputs are no temporary files, and where an input stands no output is saved. So
what becomes of a report is what would become of it alone, in whatever order reports are made.
-/

namespace SheetReport

open FileStore (Keeps)
open SheetReport.Path (NamesFile partialName)

/-- The places that a report changes: that of its output and that of the temporary file. -/
def places (d : Location) (name : String) : List Location := [d ++ [name], d ++ [partialName name]]

/-- The locations of the temporary files of several outputs in a directory. -/
def temporaries (d : Location) (name : String → String) (inputs : List String) : Set Location :=
  {l | ∃ i ∈ inputs, l = d ++ [partialName (name i)]}

namespace Formatter

variable {f : Formatter} {s t : FileStore} {inputs order : List String} {i j : String}
  {name : String → String} {dir : List String} {d k : Location}

/-- The store after one report. -/
theorem fst_formatOne : (f.formatOne s i).1 = (f.format s i (f.settings.outputPath i)).1 := by
  unfold formatOne
  dsimp only
  rcases f.format s i (f.settings.outputPath i) with ⟨files, error | summary⟩ <;> rfl

/-- The summary of one report. -/
theorem snd_formatOne : (f.formatOne s i).2 =
    match (f.format s i (f.settings.outputPath i)).2 with
    | .ok summary => summary
    | .error error =>
      .failed i ((Path.fileName? (f.settings.outputPath i)).getD "") error.causes := by
  unfold formatOne
  dsimp only
  rcases f.format s i (f.settings.outputPath i) with ⟨files, error | summary⟩ <;> rfl

/-- The summary of one report is that of its input. -/
theorem input_formatOne : (f.formatOne s i).2.input = i := by
  rw [snd_formatOne]
  cases hformat : (f.format s i (f.settings.outputPath i)).2 with
  | error error => rfl
  | ok summary =>
    obtain ⟨t, workbook, hreport⟩ := report_of_format_eq_ok hformat
    exact (summary_of_report_eq_ok hreport).1

/-- The summary of one report tells whether there is one. -/
theorem isSuccess_formatOne : (f.formatOne s i).2.isSuccess = true ↔
    ∃ summary, (f.format s i (f.settings.outputPath i)).2 = .ok summary := by
  rw [snd_formatOne]
  cases hformat : (f.format s i (f.settings.outputPath i)).2 with
  | error error => simp [ReportSummary.failed, ReportSummary.isSuccess]
  | ok summary =>
    obtain ⟨t, workbook, hreport⟩ := report_of_format_eq_ok hformat
    exact iff_of_true (summary_of_report_eq_ok hreport).2 ⟨summary, rfl⟩

/-- A store in which the reports of some inputs can be made one after another: their outputs have
different names in one directory, for which nothing is left to create, and the reports do not
change as long as only outputs and temporary files do. -/
structure Run (f : Formatter) (inputs : List String) (name : String → String) (dir : List String)
    (d : Location) (s : FileStore) : Prop where
  overwrite_eq : f.overwrite = false
  dots_notMem : ".." ∉ dir
  namesFile : ∀ i ∈ inputs, NamesFile (f.settings.outputPath i) dir (name i)
  name_inj : ∀ i ∈ inputs, ∀ j ∈ inputs, name i = name j → i = j
  name_ne_partialName : ∀ i ∈ inputs, ∀ j ∈ inputs, name i ≠ partialName (name j)
  start_eq : ∀ i ∈ inputs, s.start (f.settings.outputPath i) ++ dir = d
  isPrepared : ∀ i ∈ inputs, s.IsPrepared (s.start (f.settings.outputPath i)) dir
  report_eq : ∀ i ∈ inputs, ∀ t, Keeps (temporaries d name inputs) s t →
    f.report t i (f.settings.outputPath i) = f.report s i (f.settings.outputPath i)

namespace Run

variable (h : f.Run inputs name dir d s)
include h

/-- Different inputs have different places. -/
theorem notMem_places (hi : i ∈ inputs) (hj : j ∈ inputs) (hne : i ≠ j)
    (hk : k ∈ places d (name j)) : k ∉ places d (name i) := by
  intro hki
  simp only [places, List.mem_cons, List.not_mem_nil, or_false] at hk hki
  obtain rfl | rfl := hk <;> obtain heq | heq := hki <;>
    have hname := (List.append_singleton_inj.mp heq).2
  · exact hne (h.name_inj j hj i hi hname).symm
  · exact h.name_ne_partialName j hj i hi hname
  · exact h.name_ne_partialName i hi j hj hname.symm
  · exact hne (h.name_inj j hj i hi (Path.partialName_injective hname)).symm

/-- One report keeps all files that are not temporary. -/
theorem keeps_formatOne (hi : i ∈ inputs) :
    Keeps (temporaries d name inputs) s (f.formatOne s i).1 := by
  rw [fst_formatOne]
  refine (keeps_format h.overwrite_eq (h.namesFile i hi) h.dots_notMem (h.start_eq i hi)
    (h.isPrepared i hi)).mono ?_
  rintro l rfl
  exact ⟨i, hi, rfl⟩

/-- Away from its places a report changes nothing. -/
theorem node?_formatOne (hi : i ∈ inputs) (hk : k ∉ places d (name i)) :
    (f.formatOne s i).1.node? k = s.node? k := by
  simp only [places, List.mem_cons, List.not_mem_nil, or_false, not_or] at hk
  rw [fst_formatOne]
  exact node?_format h.overwrite_eq (h.namesFile i hi) h.dots_notMem (h.start_eq i hi)
    (h.isPrepared i hi) hk.1 hk.2

/-- There is a report if its output is new and holds what was made of the input. -/
theorem isSuccess_formatOne_iff (hi : i ∈ inputs) : (f.formatOne s i).2.isSuccess = true ↔
    s.node? (d ++ [name i]) = none ∧ ∃ workbook summary,
      f.report s i (f.settings.outputPath i) = .ok (workbook, summary) ∧
        (f.formatOne s i).1.node? (d ++ [name i]) = some (.file (.workbook workbook)) := by
  rw [isSuccess_formatOne, fst_formatOne]
  constructor
  · intro hok
    obtain ⟨summary, hok⟩ := hok
    obtain ⟨hnone, workbook, hreport, hnode⟩ := node?_of_format_eq_ok h.overwrite_eq
      (h.namesFile i hi) h.dots_notMem (h.start_eq i hi) (h.isPrepared i hi) hok
    exact ⟨hnone, workbook, summary, hreport, hnode⟩
  · intro hnew
    obtain ⟨hnone, workbook, -, -, hnode⟩ := hnew
    cases hformat : (f.format s i (f.settings.outputPath i)).2 with
    | error error =>
      rw [node?_of_format_eq_error h.overwrite_eq (h.namesFile i hi) h.dots_notMem
        (h.start_eq i hi) (h.isPrepared i hi) hformat, hnone] at hnode
      contradiction
    | ok summary => exact ⟨summary, rfl⟩

/-- After one report the others can still be made. -/
theorem formatOne (hi : i ∈ inputs) : f.Run inputs name dir d (f.formatOne s i).1 := by
  have hkeeps := h.keeps_formatOne hi
  have hstart (j : String) : (f.formatOne s i).1.start (f.settings.outputPath j) =
      s.start (f.settings.outputPath j) := hkeeps.start_eq _
  refine { h with start_eq := fun j hj => ?_, isPrepared := fun j hj => ?_, report_eq := ?_ }
  · rw [hstart, h.start_eq j hj]
  · have hsame : s.start (f.settings.outputPath i) = s.start (f.settings.outputPath j) :=
      List.append_cancel_right ((h.start_eq i hi).trans (h.start_eq j hj).symm)
    rw [hstart, ← hsame, fst_formatOne]
    exact isPrepared_format h.overwrite_eq (h.namesFile i hi) h.dots_notMem (h.start_eq i hi)
      (h.isPrepared i hi)
  · intro j hj t ht
    rw [h.report_eq j hj t (hkeeps.trans ht), h.report_eq j hj _ hkeeps]

/-- What becomes of a report does not change with a report of another input before. -/
theorem formatOne_formatOne (hi : i ∈ inputs) (hj : j ∈ inputs) (hne : i ≠ j) :
    (f.formatOne (f.formatOne s i).1 j).2 = (f.formatOne s j).2 ∧
      ∀ k ∈ places d (name j),
        (f.formatOne (f.formatOne s i).1 j).1.node? k = (f.formatOne s j).1.node? k := by
  have hnext := h.formatOne hi
  have hsame (k : Location) (hk : k ∈ places d (name j)) :
      (f.formatOne s i).1.node? k = s.node? k :=
    h.node?_formatOne hi (h.notMem_places hi hj hne hk)
  have hdirectory : (f.formatOne s i).1.hasDirectory d = s.hasDirectory d := by
    have hd : d ∉ places d (name i) := by simp [places]
    rw [FileStore.hasDirectory, h.node?_formatOne hi hd, FileStore.hasDirectory]
  obtain ⟨hsummary, hplace, htemporary⟩ := format_congr h.overwrite_eq (h.namesFile j hj)
    h.dots_notMem (hnext.start_eq j hj) (hnext.isPrepared j hj) (h.start_eq j hj)
    (h.isPrepared j hj) hdirectory (hsame _ (by simp [places])) (hsame _ (by simp [places]))
    (h.report_eq j hj _ (h.keeps_formatOne hi))
  rw [← fst_formatOne, ← fst_formatOne] at hplace htemporary
  refine ⟨by rw [snd_formatOne, hsummary, snd_formatOne], fun k hk => ?_⟩
  simp only [places, List.mem_cons, List.not_mem_nil, or_false] at hk
  obtain rfl | rfl := hk
  · exact hplace
  · exact htemporary

/-- What reports made one after another do: each does at its places what it would do alone, and
nothing else changes. -/
theorem formatAll (hnodup : order.Nodup) (hsubset : order ⊆ inputs) :
    (f.formatAll s order).2 = order.map (fun i => (f.formatOne s i).2) ∧
      Keeps (temporaries d name inputs) s (f.formatAll s order).1 ∧
      (∀ i ∈ order, ∀ k ∈ places d (name i),
        (f.formatAll s order).1.node? k = (f.formatOne s i).1.node? k) ∧
      ∀ k, (∀ i ∈ order, k ∉ places d (name i)) →
        (f.formatAll s order).1.node? k = s.node? k := by
  -- the store after a report is again one in which the others can be made, and `hother` carries
  -- what they do there back to the store before it
  induction order generalizing s with
  | nil => exact ⟨rfl, .refl _ s, by simp, fun _ _ => rfl⟩
  | cons i rest ih =>
    obtain ⟨hi, hrest⟩ := List.cons_subset.mp hsubset
    obtain ⟨hfresh, hnodup⟩ := List.nodup_cons.mp hnodup
    obtain ⟨hsummaries, hkeeps, hplaces, helse⟩ := ih (h.formatOne hi) hnodup hrest
    have hother (j : String) (hj : j ∈ rest) :=
      h.formatOne_formatOne hi (hrest hj) (by rintro rfl; exact hfresh hj)
    have hall : f.formatAll s (i :: rest) = ((f.formatAll (f.formatOne s i).1 rest).1,
        (f.formatOne s i).2 :: (f.formatAll (f.formatOne s i).1 rest).2) := rfl
    rw [hall]
    refine ⟨?_, (h.keeps_formatOne hi).trans hkeeps, ?_, ?_⟩
    · rw [hsummaries, List.map_cons]
      exact congrArg _ (List.map_congr_left fun j hj => (hother j hj).1)
    · intro j hj k hk
      obtain rfl | hj := List.mem_cons.mp hj
      · refine helse k fun i' hi' => ?_
        exact h.notMem_places (hrest hi') hi (by rintro rfl; exact hfresh hi') hk
      · rw [hplaces j hj k hk, (hother j hj).2 k hk]
    · intro k hk
      obtain ⟨hki, hkrest⟩ := List.forall_mem_cons.mp hk
      rw [helse k hkrest, h.node?_formatOne hi hki]

/-- The order in which reports are made does not matter to the files. -/
theorem fst_formatAll_perm (hnodup : inputs.Nodup) (hperm : order.Perm inputs) :
    (f.formatAll s order).1 = (f.formatAll s inputs).1 := by
  obtain ⟨-, hkeeps, hplaces, helse⟩ := h.formatAll hnodup (List.Subset.refl inputs)
  obtain ⟨-, hkeeps', hplaces', helse'⟩ := h.formatAll (hperm.nodup_iff.mpr hnodup) hperm.subset
  refine FileStore.ext_node? (hkeeps'.current_eq.trans hkeeps.current_eq.symm) fun k => ?_
  by_cases hk : ∃ i ∈ inputs, k ∈ places d (name i)
  · obtain ⟨i, hi, hk⟩ := hk
    rw [hplaces i hi k hk, hplaces' i (hperm.mem_iff.mpr hi) k hk]
  · have hnone : ∀ i ∈ inputs, k ∉ places d (name i) := fun i hi hmem => hk ⟨i, hi, hmem⟩
    rw [helse k hnone, helse' k fun i hi => hnone i (hperm.mem_iff.mp hi)]

end Run

end Formatter

end SheetReport
