import Mathlib.Data.List.InsertIdx
import Mathlib.Data.List.Nodup
import SheetReport.Records.Cleaning

/-!
# Records as tables

Records of full width under distinct columns are a table: a value for every row and every name
of a column. Each cleaning step is one change of the table. An edit changes the values under one
name, dropping columns filters the names, and reordering permutes them; the values under the
other names stay where they are, because a table does not speak of positions.

Main statements: `eq_table`, `onColumn_edit_table`, `foldl_dropColumn_table` and `reorder_table`.
-/

namespace SheetReport

variable {α : Type}

/-- Removing one by one what passes a test leaves what does not, with all repetitions. -/
theorem foldl_erase_filter [DecidableEq α] (test : α → Bool) (l : List α) :
    (l.filter test).foldl List.erase l = l.filter fun a => !test a := by
  have hcons {a : α} {others l : List α} (h : ∀ b ∈ others, b ≠ a) :
      others.foldl List.erase (a :: l) = a :: others.foldl List.erase l := by
    induction others generalizing l with
    | nil => rfl
    | cons b rest ih =>
      obtain ⟨hb, hrest⟩ := List.forall_mem_cons.mp h
      rw [List.foldl_cons, List.foldl_cons, List.erase_cons_tail (by simpa using Ne.symm hb),
        ih hrest]
  induction l with
  | nil => rfl
  | cons a rest ih =>
    cases ha : test a with
    | true => simp [ha, ih]
    | false =>
      have hne : ∀ b ∈ rest.filter test, b ≠ a := by
        intro b hb heq
        rw [heq, List.mem_filter, ha] at hb
        simp at hb
      simp [ha, hcons hne, ih]

namespace Records

/-- The records with a row for each of some things, whose values are told by the names of
columns. -/
def table (columns : List String) (rows : List α) (value : α → String → Value) : Records :=
  ⟨columns, rows.map fun a => ⟨columns.map (value a)⟩⟩

/-- Whether every record has one value for each column. -/
def IsRectangular (s : Records) : Prop := ∀ r ∈ s.records, r.values.length = s.columns.length

instance (s : Records) : Decidable s.IsRectangular :=
  inferInstanceAs (Decidable (∀ r ∈ s.records, r.values.length = s.columns.length))

variable {s : Records} {columns : List String} {rows : List α} {value : α → String → Value}
  {column : String}

/-- A column that exists has the position of its name. -/
theorem index?_of_mem (h : column ∈ s.columns) :
    s.index? column = some (s.columns.idxOf column) :=
  List.findIdx?_eq_some_iff_findIdx_eq.mpr ⟨List.idxOf_lt_length_iff.mpr h, rfl⟩

/-- A column that does not exist has no position. -/
theorem index?_of_notMem (h : column ∉ s.columns) : s.index? column = none := by
  refine List.findIdx?_eq_none_iff.mpr fun name hname => ?_
  rw [beq_eq_false_iff_ne]
  exact fun heq => h (heq ▸ hname)

/-- The value of a row at the position of a name is the value under the name. -/
theorem get_idxOf_map {f : String → Value} (h : column ∈ columns) :
    (⟨columns.map f⟩ : Record).get (columns.idxOf column) = f column := by
  simp [Record.get, h]

/-- Records of full width under distinct columns are the table of their values. -/
theorem eq_table (hrectangular : s.IsRectangular) (hnodup : s.columns.Nodup) :
    table s.columns s.records s.value = s := by
  have hrecord : ∀ r ∈ s.records, (⟨s.columns.map (s.value r)⟩ : Record) = r := by
    intro r hr
    have hlength := hrectangular r hr
    refine congrArg Record.mk (List.ext_getElem (by simp [hlength]) fun i hi hi' => ?_)
    have hcolumn : i < s.columns.length := by omega
    rw [List.getElem_map, Records.value, index?_of_mem (List.getElem_mem hcolumn)]
    simp [Record.get, hnodup.idxOf_getElem i hcolumn, hi']
  have hrecords : s.records.map (fun r => (⟨s.columns.map (s.value r)⟩ : Record)) = s.records :=
    (List.map_congr_left hrecord).trans (List.map_id' s.records)
  rw [table, hrecords]

end Records

namespace CleaningStep

open Records

variable {columns : List String} {rows : List α} {value : α → String → Value} {column : String}

/-- The values of a table after a change under one name. -/
def changedUnder (column : String) (change : α → Value → Value) (value : α → String → Value) :
    α → String → Value :=
  fun a => Function.update (value a) column (change a (value a column))

/-- Under the name itself the values are changed. -/
@[simp] theorem changedUnder_self (change : α → Value → Value) (a : α) :
    changedUnder column change value a column = change a (value a column) :=
  Function.update_self _ _ _

/-- Under other names the values stay. -/
theorem changedUnder_of_ne {name : String} (h : name ≠ column) (change : α → Value → Value)
    (a : α) : changedUnder column change value a name = value a name :=
  Function.update_of_ne h _ _

/-- An edit changes the values under one name; without such a column nothing is to change. -/
theorem onColumn_edit_table (hnodup : columns.Nodup) (change : Record → Value → Value) :
    onColumn column (fun index => edit index change) (table columns rows value) =
      table columns rows
        (changedUnder column (fun a => change ⟨columns.map (value a)⟩) value) := by
  have hmap (a : α) (v : Value) : columns.map (Function.update (value a) column v) =
      if column ∈ columns then (columns.map (value a)).set (columns.idxOf column) v
      else columns.map (value a) := hnodup.map_update (value a) column v
  by_cases hmem : column ∈ columns
  · rw [onColumn, index?_of_mem hmem]
    simp only [edit, table, List.map_map, Records.mk.injEq, true_and]
    refine List.map_congr_left fun a _ => ?_
    simp only [Function.comp_apply, Record.set, changedUnder, hmap, if_pos hmem,
      get_idxOf_map hmem]
  · rw [onColumn, index?_of_notMem hmem]
    simp only [table, changedUnder, hmap, if_neg hmem]

/-- A change that reads another column reads its values under the name. -/
theorem onColumn_source_table (hnodup : columns.Nodup) {source : String}
    (hsource : source ∈ columns) (change : Value → Value → Value) :
    onColumn column (fun index => onColumn source fun sourceIndex =>
        edit index fun r => change (r.get sourceIndex)) (table columns rows value) =
      table columns rows (changedUnder column (fun a => change (value a source)) value) := by
  have hedit : onColumn column (fun index => edit index fun r =>
      change (r.get (columns.idxOf source))) (table columns rows value) = _ :=
    onColumn_edit_table hnodup fun r => change (r.get (columns.idxOf source))
  simp only [get_idxOf_map hsource] at hedit
  rw [← hedit]
  have hindex : (table columns rows value).index? source = some (columns.idxOf source) :=
    index?_of_mem hsource
  simp only [onColumn, hindex]

/-- The values of a record without the one under a name, if there is such a column. -/
def valuesWithout (name : String) (columns : List String) (values : List Value) : List Value :=
  if name ∈ columns then values.eraseIdx (columns.idxOf name) else values

/-- Dropping a column removes its name and the values under it. -/
theorem dropColumn_eq (s : Records) (name : String) :
    dropColumn s name =
      ⟨s.columns.erase name, s.records.map fun r => ⟨valuesWithout name s.columns r.values⟩⟩ := by
  by_cases hmem : name ∈ s.columns
  · rw [dropColumn, dropColumn?, index?_of_mem hmem]
    simp only [Option.map_some, Option.getD_some, dropIndex, valuesWithout, if_pos hmem,
      List.eraseIdx_idxOf_eq_erase]
  · rw [dropColumn, dropColumn?, index?_of_notMem hmem,
      List.erase_of_not_mem hmem]
    simp only [Option.map_none, Option.getD_none, valuesWithout, if_neg hmem, List.map_id']

/-- Dropping a column leaves the values under the other names. -/
theorem dropColumn_table :
    dropColumn (table columns rows value) column = table (columns.erase column) rows value := by
  have hvalues (a : α) : valuesWithout column columns (columns.map (value a)) =
      (columns.erase column).map (value a) := by
    by_cases hmem : column ∈ columns
    · rw [valuesWithout, if_pos hmem, List.eraseIdx_map, List.eraseIdx_idxOf_eq_erase]
    · rw [valuesWithout, if_neg hmem, List.erase_of_not_mem hmem]
  rw [dropColumn_eq]
  simp only [table, List.map_map, Function.comp_def, hvalues]

/-- Dropping columns one by one filters the names. -/
theorem foldl_dropColumn_table (test : String → Bool) :
    (columns.filter test).foldl dropColumn (table columns rows value) =
      table (columns.filter fun name => !test name) rows value := by
  have hdrop (names kept : List String) : names.foldl dropColumn (table kept rows value) =
      table (names.foldl List.erase kept) rows value := by
    induction names generalizing kept with
    | nil => rfl
    | cons name rest ih => rw [List.foldl_cons, dropColumn_table, ih, List.foldl_cons]
  rw [hdrop, foldl_erase_filter]

/-- Keeping columns filters the names. -/
theorem apply_keepColumns_table (keep : List String) :
    (keepColumns keep).apply (table columns rows value) =
      table (columns.filter keep.contains) rows value := by
  have hdrop : (keepColumns keep).apply (table columns rows value) = _ :=
    foldl_dropColumn_table fun name => !keep.contains name
  simpa only [Bool.not_not] using hdrop

end CleaningStep

namespace Records

/-- Existing columns are found at the positions of their names. -/
theorem mapM_require {s : Records} {names : List String} (h : ∀ name ∈ names, name ∈ s.columns) :
    names.mapM s.require = .ok (names.map s.columns.idxOf) := by
  induction names with
  | nil => rfl
  | cons name rest ih =>
    obtain ⟨hname, hrest⟩ := List.forall_mem_cons.mp h
    rw [List.mapM_cons, require, index?_of_mem hname, ih hrest]
    rfl

/-- Reordering to a permutation of the columns keeps the values under their names. -/
theorem reorder_table {columns order : List String} {rows : List α}
    {value : α → String → Value} (h : order.Perm columns) :
    (table columns rows value).reorder order = .ok (table order rows value) := by
  have hmem : ∀ name ∈ order, name ∈ columns := fun name hname => h.mem_iff.mp hname
  have hrow (a : α) : (order.map columns.idxOf).map (⟨columns.map (value a)⟩ : Record).get =
      order.map (value a) := by
    rw [List.map_map]
    exact List.map_congr_left fun name hname => get_idxOf_map (hmem name hname)
  have hrows : (table columns rows value).records.map
      (fun r => (⟨(order.map columns.idxOf).map r.get⟩ : Record)) =
        (table order rows value).records := by
    rw [table, table, List.map_map]
    exact List.map_congr_left fun a _ => congrArg Record.mk (hrow a)
  have hlength : (order.map columns.idxOf).length = columns.length := by
    rw [List.length_map, h.length_eq]
  rw [reorder, mapM_require hmem]
  change (if (order.map columns.idxOf).length = columns.length then _ else _) = _
  rw [if_pos hlength]
  exact congrArg (fun records => Except.ok (Records.mk order records)) hrows

/-- A step that reorders to a permutation of the columns is not passed over. -/
theorem apply_reorder_table {columns order : List String} {rows : List α}
    {value : α → String → Value} (h : order.Perm columns) :
    (CleaningStep.reorder order).apply (table columns rows value) = table order rows value := by
  rw [CleaningStep.apply, reorder_table h]

end Records

end SheetReport
