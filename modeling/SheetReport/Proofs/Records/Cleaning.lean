import Mathlib.Data.List.Infix
import SheetReport.Proofs.Records.Table
import SheetReport.Proofs.Report.Resolving
import SheetReport.Settings

/-!
# What cleaning makes of the records of an input

Cleaned records have exactly the columns of the report. Their rows are raw records in the
original order, without the total rows and then without the test rows, and each value is told by
the raw values of its own record alone. The steps work on positions that change from one step
to the next; as changes of a table they do not.

Main statement: `clean_eq_raw_values_under_report_columns`.
-/

namespace SheetReport

open CleaningStep Records

/-- A text contains another one exactly when that is a part of it. -/
theorem Text.containsChars_iff {part text : List Char} :
    containsChars part text = true ↔ part <:+: text := by
  induction text with
  | nil => simp [containsChars]
  | cons c rest ih =>
    rw [containsChars, Bool.or_eq_true, ih, List.isPrefixOf_iff_prefix, List.infix_cons_iff]

/-- The records without those that pass a test; if all of them do, they stay. -/
def Records.allBut (test : Record → Prop) [DecidablePred test] (records : List Record) :
    List Record :=
  if ∀ r ∈ records, test r then records else records.filter fun r => ¬ test r

namespace Settings

/-- The columns that cleaning looks at by name. -/
def cleanedColumns (st : Settings) : List String :=
  [st.assembly.grouping.lineItem, st.assembly.grouping.creativeSize, st.cleaning.goalColumn,
    st.cleaning.nativeFormatColumn, st.assembly.grouping.startDate, st.assembly.grouping.endDate]

/-- The printed line item of a raw record. -/
def lineItemText (st : Settings) (s : Records) (r : Record) : String :=
  (s.value r st.assembly.grouping.lineItem).print

/-- The raw records that come into a report: total rows go first, then test rows. -/
def reportedRecords (st : Settings) (s : Records) : List Record :=
  let items := allBut (fun r => st.lineItemText s r = "Total") s.records
  allBut (fun r => "TEST".toList <:+: (st.lineItemText s r).toList) items

/-- What a report shows for a raw record under the name of a column. -/
def reportedValue (st : Settings) (s : Records) (r : Record) (column : String) : Value :=
  let grouping := st.assembly.grouping
  match s.value r column with
  | .number x =>
    if column = st.cleaning.goalColumn ∧ x.toFloat ≤ st.cleaning.goalThreshold then .empty else .number x
  | .text t =>
    let native := s.value r st.cleaning.nativeFormatColumn
    if column = grouping.creativeSize ∧ t = "1 x 1" then .text "pageskin"
    else if column = grouping.creativeSize ∧ t = "Native" ∧ native ≠ .text "-" then native
    else .text t
  | .dateTime t =>
    if column = grouping.startDate ∨ column = grouping.endDate then .date t.date else .dateTime t
  | v => v

/-- The values of a table after all edits of cleaning. -/
def edited (st : Settings) (value : Record → String → Value) : Record → String → Value :=
  let grouping := st.assembly.grouping
  let goals := changedUnder st.cleaning.goalColumn
    (fun _ => clearedAtOrBelow st.cleaning.goalThreshold) value
  let skins := changedUnder grouping.creativeSize
    (fun _ => replaced "1 x 1" (.text "pageskin")) goals
  let sizes := changedUnder grouping.creativeSize
    (fun r => replacedFrom "Native" "-" (skins r st.cleaning.nativeFormatColumn)) skins
  changedUnder grouping.endDate (fun _ => dateOnly)
    (changedUnder grouping.startDate (fun _ => dateOnly) sizes)

end Settings

namespace CleaningStep

variable {s : Records} {column : String}

/-- Dropping rows keeps the records whose printed value does not match. -/
theorem apply_dropRows (h : column ∈ s.columns) {value : String} {exact : Bool}
    {test : Record → Prop} [DecidablePred test]
    (htest : ∀ r, matchesRow value exact (s.columns.idxOf column) r = true ↔ test r) :
    (dropRows column value exact).apply s = ⟨s.columns, allBut test s.records⟩ := by
  have hmatch : matchesRow value exact (s.columns.idxOf column) = fun r => decide (test r) := by
    funext r
    rw [Bool.eq_iff_iff, htest, decide_eq_true_iff]
  have hdrop : dropMatching (matchesRow value exact (s.columns.idxOf column)) s.records =
      allBut test s.records := by
    rw [dropMatching, allBut, hmatch]
    simp only [List.all_eq_true, decide_eq_true_eq, decide_not]
  rw [apply, onColumn, index?_of_mem h]
  exact congrArg (Records.mk s.columns) hdrop

/-- A size is put right in two steps: no text is replaced by both of them. -/
theorem replacedFrom_replaced (native v : Value) :
    replacedFrom "Native" "-" native (replaced "1 x 1" (.text "pageskin") v) =
      if v = .text "1 x 1" then .text "pageskin"
      else if v = .text "Native" ∧ native ≠ .text "-" then native
      else v := by
  simp only [replacedFrom, replaced, Value.text?_eq_some_iff, ne_eq]
  by_cases hskin : v = .text "1 x 1"
  · simp [hskin]
  · simp only [hskin, if_false]

/-- A value of an existing column stands at the position of its name. -/
theorem get_idxOf_eq_value (h : column ∈ s.columns) (r : Record) :
    r.get (s.columns.idxOf column) = s.value r column := by
  rw [Records.value, index?_of_mem h]

end CleaningStep

namespace Settings

variable {st : Settings} {s : Records}

/-- Nothing else comes into a report than raw records. -/
theorem mem_of_mem_reportedRecords {r : Record} (h : r ∈ st.reportedRecords s) :
    r ∈ s.records := by
  have hsub (test : Record → Prop) [DecidablePred test] {records : List Record}
      (h : r ∈ allBut test records) : r ∈ records := by
    rw [allBut] at h
    split at h
    · exact h
    · exact (List.mem_filter.mp h).1
  exact hsub _ (hsub _ h)

/-- The first two steps leave the reported records. -/
theorem apply_dropRows_dropRows (h : st.assembly.grouping.lineItem ∈ s.columns) :
    (dropRows st.assembly.grouping.lineItem "TEST" false).apply
        ((dropRows st.assembly.grouping.lineItem "Total" true).apply s) =
      ⟨s.columns, st.reportedRecords s⟩ := by
  have htotal (r : Record) :
      matchesRow "Total" true (s.columns.idxOf st.assembly.grouping.lineItem) r = true ↔
        st.lineItemText s r = "Total" := by
    rw [lineItemText, ← get_idxOf_eq_value h]
    simp [matchesRow]
  have htest (r : Record) :
      matchesRow "TEST" false (s.columns.idxOf st.assembly.grouping.lineItem) r = true ↔
        "TEST".toList <:+: (st.lineItemText s r).toList := by
    rw [lineItemText, ← get_idxOf_eq_value h, ← Text.containsChars_iff]
    rfl
  rw [apply_dropRows h htotal]
  let items : Records :=
    ⟨s.columns, allBut (fun r => st.lineItemText s r = "Total") s.records⟩
  exact apply_dropRows (s := items) h htest

/-- The remaining steps edit the table and pick and order its columns. -/
theorem applyAll_table {rows : List Record} {value : Record → String → Value}
    {columns : List String} (hnodup : columns.Nodup) (hreport : st.reportColumns.Nodup)
    (hnative : st.cleaning.nativeFormatColumn ∈ columns)
    (hcolumns : ∀ name ∈ st.reportColumns, name ∈ columns) :
    applyAll (st.cleaningSteps.drop 2) (table columns rows value) =
      table st.reportColumns rows (st.edited value) := by
  have hkept : (columns.filter st.reportColumns.contains).Nodup := hnodup.filter _
  have horder : st.reportColumns.Perm (columns.filter st.reportColumns.contains) := by
    refine (List.perm_ext_iff_of_nodup hreport hkept).mpr fun name => ?_
    rw [List.mem_filter, List.contains_iff_mem]
    exact ⟨fun h => ⟨hcolumns name h, h⟩, And.right⟩
  have hclear (value : Record → String → Value) :
      (clearAtOrBelow st.cleaning.goalColumn st.cleaning.goalThreshold).apply
          (table columns rows value) =
        table columns rows (changedUnder st.cleaning.goalColumn
          (fun _ => clearedAtOrBelow st.cleaning.goalThreshold) value) :=
    onColumn_edit_table hnodup _
  have hreplace (column old new : String) (value : Record → String → Value) :
      (replace column old new).apply (table columns rows value) =
        table columns rows (changedUnder column (fun _ => replaced old (.text new)) value) :=
    onColumn_edit_table hnodup _
  have hreplaceFrom (column old unwanted : String) (value : Record → String → Value) :
      (replaceFrom column old st.cleaning.nativeFormatColumn unwanted).apply
          (table columns rows value) =
        table columns rows (changedUnder column
          (fun r => replacedFrom old unwanted (value r st.cleaning.nativeFormatColumn)) value) :=
    onColumn_source_table hnodup hnative _
  have hdates (column : String) (value : Record → String → Value) :
      (datesOnly column).apply (table (columns.filter st.reportColumns.contains) rows value) =
        table (columns.filter st.reportColumns.contains) rows
          (changedUnder column (fun _ => dateOnly) value) :=
    onColumn_edit_table hkept _
  simp only [cleaningSteps, List.drop_succ_cons, List.drop_zero, applyAll, List.foldl_cons,
    List.foldl_nil]
  rw [hclear, hreplace, hreplaceFrom, apply_keepColumns_table, hdates, hdates,
    apply_reorder_table horder]
  rfl

/-- After all edits, a value is what the report shows for the raw values of the record. -/
theorem edited_eq_reportedValue (hnames : st.cleanedColumns.Nodup) (r : Record)
    (column : String) : st.edited s.value r column = st.reportedValue s r column := by
  simp only [cleanedColumns, List.nodup_cons, List.mem_cons, List.not_mem_nil, or_false,
    not_or] at hnames
  obtain ⟨-, ⟨hgoal, hnative, hstart, hend⟩, ⟨hgoalNative, hgoalStart, hgoalEnd⟩, -, hdates, -⟩ :=
    hnames
  unfold edited reportedValue
  dsimp only
  -- under each name that is edited, only the edits of that name count
  rcases eq_or_ne column st.cleaning.goalColumn with rfl | hneGoal
  · rw [changedUnder_of_ne hgoalEnd, changedUnder_of_ne hgoalStart,
      changedUnder_of_ne (Ne.symm hgoal), changedUnder_of_ne (Ne.symm hgoal), changedUnder_self]
    cases s.value r st.cleaning.goalColumn <;>
      simp [clearedAtOrBelow, Ne.symm hgoal, hgoalStart, hgoalEnd]
  rcases eq_or_ne column st.assembly.grouping.creativeSize with rfl | hneSize
  · rw [changedUnder_of_ne hend, changedUnder_of_ne hstart, changedUnder_self,
      changedUnder_self, changedUnder_of_ne hgoal, changedUnder_of_ne (Ne.symm hnative),
      changedUnder_of_ne (Ne.symm hgoalNative)]
    rw [replacedFrom_replaced]
    cases s.value r st.assembly.grouping.creativeSize <;>
      simp [hneGoal, hstart, hend]
  rcases eq_or_ne column st.assembly.grouping.startDate with rfl | hneStart
  · rw [changedUnder_of_ne hdates, changedUnder_self, changedUnder_of_ne hneSize,
      changedUnder_of_ne hneSize, changedUnder_of_ne hneGoal]
    cases s.value r st.assembly.grouping.startDate <;> simp [dateOnly, hneGoal, hneSize]
  rcases eq_or_ne column st.assembly.grouping.endDate with rfl | hneEnd
  · rw [changedUnder_self, changedUnder_of_ne hneStart, changedUnder_of_ne hneSize,
      changedUnder_of_ne hneSize, changedUnder_of_ne hneGoal]
    cases s.value r st.assembly.grouping.endDate <;> simp [dateOnly, hneGoal, hneSize]
  rw [changedUnder_of_ne hneEnd, changedUnder_of_ne hneStart, changedUnder_of_ne hneSize,
    changedUnder_of_ne hneSize, changedUnder_of_ne hneGoal]
  cases s.value r column <;> simp [hneGoal, hneSize, hneStart, hneEnd]

/-- Cleaned records have the columns of the report in its order, and their rows show the reported
records in the original order. -/
theorem clean_eq_raw_values_under_report_columns (hnames : st.cleanedColumns.Nodup)
    (hreport : st.reportColumns.Nodup) (hrectangular : s.IsRectangular)
    (hnodup : s.columns.Nodup)
    (hcolumns : ∀ name ∈ st.cleanedColumns ++ st.reportColumns, name ∈ s.columns) :
    (st.clean s).columns = st.reportColumns ∧
      (st.clean s).records = (st.reportedRecords s).map fun r =>
        ⟨st.reportColumns.map (st.reportedValue s r)⟩ := by
  obtain ⟨hcleaned, hreported⟩ := List.forall_mem_append.mp hcolumns
  have hlineItem : st.assembly.grouping.lineItem ∈ s.columns := hcleaned _ (by simp [cleanedColumns])
  have hnative : st.cleaning.nativeFormatColumn ∈ s.columns := hcleaned _ (by simp [cleanedColumns])
  have hrows : table s.columns (st.reportedRecords s) s.value =
      ⟨s.columns, st.reportedRecords s⟩ :=
    eq_table (s := ⟨s.columns, st.reportedRecords s⟩)
      (fun r hr => hrectangular r (mem_of_mem_reportedRecords hr)) hnodup
  have hclean : st.clean s = table st.reportColumns (st.reportedRecords s) (st.edited s.value) := by
    rw [← applyAll_table hnodup hreport hnative hreported, hrows,
      ← apply_dropRows_dropRows hlineItem]
    rfl
  rw [hclean]
  refine ⟨rfl, List.map_congr_left fun r _ => congrArg Record.mk ?_⟩
  exact List.map_congr_left fun column _ => edited_eq_reportedValue hnames r column

end Settings

namespace DeliveryRecords

/-- The usual settings for a report of three columns. -/
def settings : Settings :=
  { reportColumns := ["Creative Size", "Line Item", "Line item end date"] }

/-- A total row, a test row, a skin and two native creatives. -/
def records : Records :=
  ⟨["Line Item", "Goal quantity", "Line item start date", "Line item end date", "Creative Size",
      "DAP Native Format"],
    [⟨[.text "ORD-1-1-1", .empty, .empty, .text "Unlimited", .text "1 x 1", .text "-"]⟩,
      ⟨[.text "ORD-1 TEST", .empty, .empty, .empty, .text "Native", .text "In-feed"]⟩,
      ⟨[.text "ORD-2-1-1", .empty, .empty, .empty, .text "Native", .text "In-feed"]⟩,
      ⟨[.text "ORD-3-1-1", .empty, .empty, .empty, .text "Native", .text "-"]⟩,
      ⟨[.text "Total", .empty, .empty, .empty, .empty, .empty]⟩]⟩

end DeliveryRecords

/-- Of the records of a delivery, a report shows the three that are neither total nor test, under
its own columns. -/
theorem deliveryRecords_clean_eq :
    DeliveryRecords.settings.cleanedColumns.Nodup ∧
      DeliveryRecords.settings.reportColumns.Nodup ∧ DeliveryRecords.records.IsRectangular ∧
      DeliveryRecords.records.columns.Nodup ∧
      (∀ name ∈ DeliveryRecords.settings.cleanedColumns ++ DeliveryRecords.settings.reportColumns,
        name ∈ DeliveryRecords.records.columns) ∧
      DeliveryRecords.settings.clean DeliveryRecords.records =
        ⟨["Creative Size", "Line Item", "Line item end date"],
          [⟨[.text "pageskin", .text "ORD-1-1-1", .text "Unlimited"]⟩,
            ⟨[.text "In-feed", .text "ORD-2-1-1", .empty]⟩,
            ⟨[.text "Native", .text "ORD-3-1-1", .empty]⟩]⟩ := by
  have hnames : DeliveryRecords.settings.cleanedColumns.Nodup := by decide
  have hreport : DeliveryRecords.settings.reportColumns.Nodup := by decide
  have hrectangular : DeliveryRecords.records.IsRectangular := by decide
  have hnodup : DeliveryRecords.records.columns.Nodup := by decide
  have hcolumns : ∀ name ∈
      DeliveryRecords.settings.cleanedColumns ++ DeliveryRecords.settings.reportColumns,
        name ∈ DeliveryRecords.records.columns := by
    decide
  refine ⟨hnames, hreport, hrectangular, hnodup, hcolumns, ?_⟩
  obtain ⟨hshown, hrows⟩ := Settings.clean_eq_raw_values_under_report_columns hnames hreport
    hrectangular hnodup hcolumns
  have hrecords : (DeliveryRecords.settings.clean DeliveryRecords.records).records =
      [⟨[.text "pageskin", .text "ORD-1-1-1", .text "Unlimited"]⟩,
        ⟨[.text "In-feed", .text "ORD-2-1-1", .empty]⟩,
        ⟨[.text "Native", .text "ORD-3-1-1", .empty]⟩] := by
    rw [hrows]
    decide
  exact congrArg₂ Records.mk hshown hrecords

end SheetReport
