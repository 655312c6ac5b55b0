import SheetReport.Proofs.Report.GroupOrder

/-!
# The order of the input does not matter beyond ties

Two arrangements of the same records under the same columns are both grouped or both rejected.
Their groups have the same keys, and for each key the same records. The order of the input only
tells where ties go: if records of the same start date, line item and creative size come in the
same order in both, then groups, their order and the order of their records are the same, and so
is the report.

The places of the records in the input differ, and with them the place that a rejected record is
reported by. So reports are compared when the records are grouped; else the template stays.

Main statement: `Assembler.report_of_perm`.
-/

namespace SheetReport

open Std

/-- What a group shows: its key and its records in order, without their places in the input. -/
def Group.content (b : Group) : GroupKey × List Record := (b.key, b.records)

/-- Members with the same keys and records gather to groups with the same content. -/
theorem Group.map_content_gather {keyed keyed' : List (GroupKey × Member)}
    (h : keyed.map (Prod.map id Member.record) = keyed'.map (Prod.map id Member.record)) :
    (gather keyed).map content = (gather keyed').map content := by
  -- with every place set to zero, the members are the same
  have herase (l : List (GroupKey × Member)) : (gather l).map content =
      (gather ((l.map (Prod.map id Member.record)).map (Prod.map id (Member.mk 0)))).map
        content := by
    rw [List.map_map, Prod.map_comp_map, Function.id_comp, gather_map, List.map_map]
    refine List.map_congr_left fun b _ => ?_
    simp [content, records]
  rw [herase keyed, h, ← herase keyed']

namespace Grouper

variable {g : Grouper} {s : Records} {order : List Member} {groups : List Group}

/-- Without their places, the members are the records. -/
theorem map_record_members (s : Records) : (members s).map Member.record = s.records := by
  rw [members, List.map_map]
  exact List.zipIdx_map_fst 0 s.records

/-- A grouping that succeeds splits the records in some order. -/
theorem exists_splits_of_build (h : g.build s = .ok groups) :
    ∃ order : List Member, order.Perm (members s) ∧ Splits g s order groups := by
  obtain ⟨lineItem, hrequire, -⟩ := bind_eq_ok_iff.mp h
  obtain ⟨hidentifies, rfl⟩ := (build_eq_ok_iff hrequire).mp h
  exact ⟨g.sorted s lineItem, g.sorted_perm s lineItem, splits_gather hidentifies⟩

/-- The keys of groups are the keys of records. -/
theorem Splits.mem_keys_iff (h : Splits g s order groups) (horder : order.Perm (members s))
    {key : GroupKey} :
    key ∈ groups.map Group.key ↔ ∃ r ∈ s.records, g.key? s r = some key := by
  rw [← map_record_members s]
  simp only [List.mem_map, exists_exists_and_eq_and]
  constructor
  · rintro ⟨b, hb, rfl⟩
    obtain ⟨m, hm⟩ := List.exists_mem_of_ne_nil _ (h.members_ne_nil b hb)
    rw [h.members_eq b hb, List.mem_filter, decide_eq_true_eq] at hm
    exact ⟨m, horder.mem_iff.mp hm.1, hm.2⟩
  · rintro ⟨m, hm, hkey⟩
    obtain ⟨b, hb, hmem⟩ := List.mem_flatMap.mp
      (h.members_perm.mem_iff.mpr (horder.mem_iff.mpr hm))
    rw [h.members_eq b hb, List.mem_filter, decide_eq_true_eq, hkey] at hmem
    exact ⟨b, hb, (Option.some.inj hmem.2).symm⟩

/-- The records of a group are those of its key. -/
theorem Splits.records_perm (h : Splits g s order groups) (horder : order.Perm (members s))
    {b : Group} (hb : b ∈ groups) :
    b.records.Perm (s.records.filter fun r => g.key? s r = some b.key) := by
  have hmap : b.records = (order.map Member.record).filter fun r => g.key? s r = some b.key := by
    rw [Group.records, h.members_eq b hb, List.filter_map]
    rfl
  rw [hmap, ← map_record_members s]
  exact (horder.map _).filter _

/-- Whether an arrangement of the records of an input has ties in the order of the input: it
lists the members such that of two that their order does not tell apart the one that comes first
in the input comes first. -/
def KeepsTies (g : Grouper) (s : Records) (records : List Record) : Prop :=
  ∃ moved : List Member, moved.Perm (members s) ∧ moved.map Member.record = records ∧
    moved.Pairwise fun a b => g.recordOrder s a.record b.record = .eq → a.index < b.index

variable {columns : List String} {records records' : List Record}

/-- Rearranged records are grouped or rejected together. -/
theorem exists_build_eq_ok_iff_of_perm (hperm : records.Perm records') :
    (∃ groups, g.build ⟨columns, records⟩ = .ok groups) ↔
      ∃ groups, g.build ⟨columns, records'⟩ = .ok groups := by
  by_cases h : g.rules.lineItem ∈ columns
  · rw [exists_build_eq_ok_iff h, exists_build_eq_ok_iff h]
    simp only [hperm.mem_iff]
    rfl
  · rw [build_of_notMem h, build_of_notMem h]

/-- Rearranged records are split into groups of the same keys, with the same records for each
key. -/
theorem groups_of_perm (hperm : records.Perm records') {groups groups' : List Group}
    (h : g.build ⟨columns, records⟩ = .ok groups)
    (h' : g.build ⟨columns, records'⟩ = .ok groups') :
    (∀ key, key ∈ groups.map Group.key ↔ key ∈ groups'.map Group.key) ∧
      ∀ b ∈ groups, ∀ b' ∈ groups', b.key = b'.key → b.records.Perm b'.records := by
  obtain ⟨order, horder, hsplits⟩ := exists_splits_of_build h
  obtain ⟨order', horder', hsplits'⟩ := exists_splits_of_build h'
  constructor
  · intro key
    rw [hsplits.mem_keys_iff horder, hsplits'.mem_keys_iff horder']
    simp only [hperm.mem_iff]
    rfl
  · intro b hb b' hb' hkey
    have hrecords := hsplits.records_perm horder hb
    have hrecords' := hsplits'.records_perm horder' hb'
    rw [← hkey] at hrecords'
    exact (hrecords.trans (hperm.filter _)).trans hrecords'.symm

/-- Records with ties in the same order are sorted to the same list. -/
theorem map_record_sorted_of_keepsTies {lineItem : Nat}
    (hrequire : (⟨columns, records⟩ : Records).require g.rules.lineItem = .ok lineItem)
    (hties : KeepsTies g ⟨columns, records⟩ records') :
    (g.sorted ⟨columns, records'⟩ lineItem).map Member.record =
      (g.sorted ⟨columns, records⟩ lineItem).map Member.record := by
  obtain ⟨moved, hmoved, rfl, hranks⟩ := hties
  have hsort (l : List Member) :
      (l.mergeSort fun a b => (g.recordOrder ⟨columns, records⟩ a.record b.record).isLE).map
          Member.record =
        (l.map Member.record).mergeSort fun a b =>
          (g.recordOrder ⟨columns, records⟩ a b).isLE :=
    List.map_mergeSort fun _ _ _ _ => rfl
  have hrequire' : (⟨columns, moved.map Member.record⟩ : Records).require g.rules.lineItem =
      .ok lineItem := hrequire
  have horder : g.recordOrder ⟨columns, moved.map Member.record⟩ =
      g.recordOrder ⟨columns, records⟩ := rfl
  rw [sorted_eq hrequire, sorted_eq hrequire', horder, hsort, map_record_members, ← hsort]
  exact congrArg (List.map Member.record)
    (mergeSort_eq_of_perm hmoved hranks (pairwise_members g ⟨columns, records⟩))

/-- Records with ties in the same order are grouped alike. -/
theorem map_content_of_keepsTies {groups groups' : List Group}
    (h : g.build ⟨columns, records⟩ = .ok groups)
    (h' : g.build ⟨columns, records'⟩ = .ok groups')
    (hties : KeepsTies g ⟨columns, records⟩ records') :
    groups.map Group.content = groups'.map Group.content := by
  obtain ⟨lineItem, hrequire, -⟩ := bind_eq_ok_iff.mp h
  obtain ⟨-, rfl⟩ := (build_eq_ok_iff hrequire).mp h
  obtain ⟨-, rfl⟩ := (build_eq_ok_iff (s := ⟨columns, records'⟩) hrequire).mp h'
  have hkeyed (s : Records) : (g.keyed s lineItem).map (Prod.map id Member.record) =
      ((g.sorted s lineItem).map Member.record).filterMap fun r =>
        (g.key? s r).map (·, r) := by
    simp [keyed, List.map_filterMap, List.filterMap_map, Function.comp_def]
  refine Group.map_content_gather ?_
  rw [hkeyed, hkeyed, map_record_sorted_of_keepsTies hrequire hties]
  rfl

end Grouper

namespace Assembler

variable {a : Assembler} {columns : List String} {records records' : List Record}

/-- A report depends on the records of its groups only. -/
theorem runIn_of_map_records {groups groups' : List Group} (template : Grid)
    (placeholders : Placeholders) (h : a.grouper.build ⟨columns, records⟩ = .ok groups)
    (h' : a.grouper.build ⟨columns, records'⟩ = .ok groups')
    (hsame : groups.map Group.records = groups'.map Group.records) :
    a.runIn template ⟨columns, records⟩ placeholders =
      a.runIn template ⟨columns, records'⟩ placeholders := by
  have hlength : groups.length = groups'.length := by
    simpa using congrArg List.length hsame
  have hlarge (l : List Group) : (l.filter Group.isSubtotalled).length =
      ((l.map Group.records).filter fun b => decide (1 < b.length)).length := by
    have htest : (fun b => decide (1 < b.length)) ∘ Group.records = Group.isSubtotalled := by
      funext b
      exact congrArg (fun n => decide (1 < n)) (List.length_map _)
    rw [List.filter_map, htest, List.length_map]
  unfold runIn run
  rw [h, h']
  simp only [bind, Except.bind, compose, hsame, hlength, hlarge]

/-- Without groups there is no report, and the template stays. -/
theorem runIn_of_build_eq_error {s : Records} {error : ReportError}
    (h : a.grouper.build s = .error error) (template : Grid) (placeholders : Placeholders) :
    ∃ error', a.runIn template s placeholders = (template, .error error') := by
  unfold runIn run
  rw [h]
  cases template.anchors with
  | error error' => exact ⟨error', rfl⟩
  | ok anchors => exact ⟨error, rfl⟩

/-- Rearranged records are grouped or rejected together, into groups of the same keys with the
same records for each key. If ties keep their order, also the order of groups and of the records
in them is the same, and every template takes the same report, with the same outcome. -/
theorem report_of_perm (hperm : records.Perm records') :
    ((∃ groups, a.grouper.build ⟨columns, records⟩ = .ok groups) ↔
      ∃ groups, a.grouper.build ⟨columns, records'⟩ = .ok groups) ∧
    (∀ groups groups', a.grouper.build ⟨columns, records⟩ = .ok groups →
      a.grouper.build ⟨columns, records'⟩ = .ok groups' →
      (∀ key, key ∈ groups.map Group.key ↔ key ∈ groups'.map Group.key) ∧
      (∀ b ∈ groups, ∀ b' ∈ groups', b.key = b'.key → b.records.Perm b'.records) ∧
      (a.grouper.KeepsTies ⟨columns, records⟩ records' →
        groups.map Group.content = groups'.map Group.content ∧
        ∀ template placeholders, a.runIn template ⟨columns, records⟩ placeholders =
          a.runIn template ⟨columns, records'⟩ placeholders)) ∧
    ((¬ ∃ groups, a.grouper.build ⟨columns, records⟩ = .ok groups) →
      ∀ template placeholders, ∃ error error',
        a.runIn template ⟨columns, records⟩ placeholders = (template, .error error) ∧
        a.runIn template ⟨columns, records'⟩ placeholders = (template, .error error')) := by
  have hsuccess : (∃ groups, a.grouper.build ⟨columns, records⟩ = .ok groups) ↔
      ∃ groups, a.grouper.build ⟨columns, records'⟩ = .ok groups :=
    Grouper.exists_build_eq_ok_iff_of_perm hperm
  refine ⟨hsuccess, ?_, ?_⟩
  · intro groups groups' h h'
    obtain ⟨hkeys, hrecords⟩ := Grouper.groups_of_perm hperm h h'
    refine ⟨hkeys, hrecords, fun hties => ?_⟩
    have hcontent := Grouper.map_content_of_keepsTies h h' hties
    refine ⟨hcontent, fun template placeholders => ?_⟩
    have hsame : groups.map Group.records = groups'.map Group.records := by
      simpa [Group.content, Function.comp_def] using congrArg (List.map Prod.snd) hcontent
    exact runIn_of_map_records template placeholders h h' hsame
  · intro hnone template placeholders
    have hfails (l : List Record) (h : ¬ ∃ groups, a.grouper.build ⟨columns, l⟩ = .ok groups) :
        ∃ error, a.runIn template ⟨columns, l⟩ placeholders = (template, .error error) := by
      cases hbuild : a.grouper.build ⟨columns, l⟩ with
      | ok groups => exact absurd ⟨groups, hbuild⟩ h
      | error error => exact runIn_of_build_eq_error hbuild template placeholders
    obtain ⟨error, herror⟩ := hfails records hnone
    obtain ⟨error', herror'⟩ := hfails records' (mt hsuccess.mpr hnone)
    exact ⟨error, error', herror, herror'⟩

/-- With its last record moved to the front, the small report is the same: the two records that
stay behind it are a tie, and keep their order. -/
theorem smallReport_of_perm_moved :
    let moved : List Record := [⟨[.text "ORD-2-1-1", .text "20"]⟩,
      ⟨[.text "ORD-1-1-1", .text "10"]⟩, ⟨[.text "ORD-1-1-1"]⟩]
    let s' : Records := ⟨SmallReport.records.columns, moved⟩
    SmallReport.records.records.Perm moved ∧
      SmallReport.assembler.grouper.KeepsTies SmallReport.records moved ∧
      ∃ groups, SmallReport.assembler.grouper.build s' = .ok groups ∧
        SmallReport.groups.map Group.content = groups.map Group.content ∧
        SmallReport.assembler.runIn SmallReport.template SmallReport.records
            SmallReport.placeholders =
          SmallReport.assembler.runIn SmallReport.template s' SmallReport.placeholders := by
  intro moved s'
  have hperm : SmallReport.records.records.Perm moved := by decide
  have hties : SmallReport.assembler.grouper.KeepsTies SmallReport.records moved := by
    refine ⟨[⟨2, ⟨[.text "ORD-2-1-1", .text "20"]⟩⟩, ⟨0, ⟨[.text "ORD-1-1-1", .text "10"]⟩⟩,
      ⟨1, ⟨[.text "ORD-1-1-1"]⟩⟩], by decide, rfl, ?_⟩
    simp only [Grouper.recordOrder, SmallReport.rules_eq]
    decide
  obtain ⟨groups, hgroups⟩ :=
    (report_of_perm hperm).1.mp ⟨SmallReport.groups, SmallReport.build_eq⟩
  obtain ⟨-, -, hsame⟩ := (report_of_perm hperm).2.1 _ _ SmallReport.build_eq hgroups
  obtain ⟨hcontent, hreport⟩ := hsame hties
  exact ⟨hperm, hties, groups, hgroups, hcontent, hreport _ _⟩

end Assembler

end SheetReport
