import Mathlib.Data.List.Perm.Subperm
import SheetReport.Proofs.Records.Table

/-!
# Reordering as a choice of columns

Reordering asks two things of a list of names: that each is the name of a column, and that there
are as many names as columns. A list without repetitions passes if and only if it is a permutation
of the columns. A list that repeats a name may pass as well, and then a column that it does not
name is gone: what is kept of every record is its value under each name of the list, and nothing
else.

Main statement: `reorder_keeps_iff`.
-/

namespace SheetReport.Records

variable {s s' : Records} {order : List String}

/-- Whether every name of the list is the name of a column and there are as many names as
columns. -/
def Fits (s : Records) (order : List String) : Prop :=
  (∀ name ∈ order, name ∈ s.columns) ∧ order.length = s.columns.length

/-- The name of each column with the values that the records have there, first column first. -/
def namedColumns (s : Records) : List (String × List Value) :=
  s.columns.mapIdx fun index name => (name, s.records.map (·.get index))

/-- Whether columns of one name have the same values. -/
def NamesAgree (s : Records) : Prop :=
  ∀ one ∈ s.namedColumns, ∀ other ∈ s.namedColumns, one.1 = other.1 → one.2 = other.2

/-- A name with the values that the records have under it. -/
def named (s : Records) (name : String) : String × List Value :=
  (name, s.records.map fun r => s.value r name)

/-- A column that does not exist is asked for in vain. -/
theorem mapM_require_of_notMem (h : ∃ name ∈ order, name ∉ s.columns) :
    ∃ error, order.mapM s.require = .error error := by
  induction order with
  | nil => simp at h
  | cons first rest ih =>
    rw [List.mapM_cons, require]
    by_cases hfirst : first ∈ s.columns
    · have hrest : ∃ name ∈ rest, name ∉ s.columns := by
        obtain ⟨name, hname, hnot⟩ := h
        rcases List.mem_cons.mp hname with rfl | hname
        · exact absurd hfirst hnot
        · exact ⟨name, hname, hnot⟩
      obtain ⟨error, herror⟩ := ih hrest
      rw [index?_of_mem hfirst, herror]
      exact ⟨error, rfl⟩
    · rw [index?_of_notMem hfirst]
      exact ⟨.missingColumn first, rfl⟩

/-- Reordering takes the values under the names of a list that fits. -/
theorem reorder_eq_ok_iff : s.reorder order = .ok s' ↔
    s.Fits order ∧ s' = table order s.records s.value := by
  by_cases hmem : ∀ name ∈ order, name ∈ s.columns
  · have hrow (r : Record) : (order.map s.columns.idxOf).map r.get = order.map (s.value r) := by
      rw [List.map_map]
      refine List.map_congr_left fun name hname => ?_
      rw [Function.comp_apply, value, index?_of_mem (hmem name hname)]
    simp only [reorder, mapM_require hmem, List.length_map, hrow, Fits, table]
    by_cases hlength : order.length = s.columns.length
    · rw [if_pos hlength, Except.ok.injEq, @eq_comm _ _ s', and_iff_right ⟨hmem, hlength⟩]
    · simp [hlength]
  · obtain ⟨error, herror⟩ := mapM_require_of_notMem (by simpa using hmem)
    simp [reorder, herror, Fits, hmem]

/-- A permutation of the columns fits. -/
theorem fits_of_perm (h : order.Perm s.columns) : s.Fits order :=
  ⟨fun _ hname => h.mem_iff.mp hname, h.length_eq⟩

/-- A list without repetitions that fits is a permutation of the columns. -/
theorem perm_of_fits (hnodup : order.Nodup) (h : s.Fits order) : order.Perm s.columns :=
  (List.subperm_of_subset hnodup h.1).perm_of_length_le (Nat.le_of_eq h.2.symm)

/-- The columns with their values have the names of the columns, in order. -/
theorem map_fst_namedColumns (s : Records) : s.namedColumns.map Prod.fst = s.columns := by
  refine List.ext_getElem (by simp [namedColumns]) fun index h h' => ?_
  simp [namedColumns]

/-- The first column of a name is among the columns with the values under the name. -/
theorem named_mem_namedColumns {name : String} (h : name ∈ s.columns) :
    s.named name ∈ s.namedColumns := by
  have hvalue (r : Record) : s.value r name = r.get (s.columns.idxOf name) := by
    rw [value, index?_of_mem h]
  refine List.mem_mapIdx.mpr ⟨s.columns.idxOf name, List.idxOf_lt_length_of_mem h, ?_⟩
  simp [named, hvalue]

/-- If columns of one name agree, a name stands for all of them. -/
theorem namesAgree_iff : s.NamesAgree ↔ ∀ one ∈ s.namedColumns, one = s.named one.1 := by
  constructor
  · intro h one hone
    have hmem : one.1 ∈ s.columns := by
      rw [← s.map_fst_namedColumns]
      exact List.mem_map_of_mem hone
    exact Prod.ext rfl (h one hone _ (named_mem_namedColumns hmem) rfl)
  · intro h one hone other hother hname
    rw [h one hone, h other hother, hname]

/-- If columns of one name agree, the columns are what their names stand for. -/
theorem namedColumns_eq_map (h : s.NamesAgree) : s.namedColumns = s.columns.map s.named :=
  calc s.namedColumns
      = s.namedColumns.map fun one => s.named one.1 := by
        rw [← List.map_congr_left (namesAgree_iff.mp h), List.map_id']
    _ = (s.namedColumns.map Prod.fst).map s.named := by rw [List.map_map, Function.comp_def]
    _ = s.columns.map s.named := by rw [map_fst_namedColumns]

/-- A table has under its columns the values that are told by their names. -/
theorem namedColumns_table {α : Type} {columns : List String} {rows : List α}
    {value : α → String → Value} : (table columns rows value).namedColumns =
      columns.map fun name => (name, rows.map fun a => value a name) := by
  refine List.ext_getElem (by simp [namedColumns, table]) fun index h h' => ?_
  have hindex : index < columns.length := by simpa using h'
  simp [namedColumns, table, Record.get, hindex]

/-- The value of a row of a table under a name. -/
theorem value_table {α : Type} {columns : List String} {rows : List α}
    {value : α → String → Value} (a : α) (name : String) :
    (table columns rows value).value ⟨columns.map (value a)⟩ name =
      if name ∈ columns then value a name else .empty := by
  by_cases h : name ∈ columns
  · have hindex : (table columns rows value).index? name = some (columns.idxOf name) :=
      index?_of_mem h
    rw [Records.value, hindex, if_pos h]
    exact get_idxOf_map h
  · have hindex : (table columns rows value).index? name = none := index?_of_notMem h
    rw [Records.value, hindex, if_neg h]

/-- Choosing the values under a list of names keeps every column if and only if the list is a
permutation of the columns and columns of one name agree. -/
theorem perm_namedColumns_table_iff :
    (table order s.records s.value).namedColumns.Perm s.namedColumns ↔
      order.Perm s.columns ∧ s.NamesAgree := by
  rw [namedColumns_table]
  constructor
  · intro h
    have hnames := h.map Prod.fst
    rw [map_fst_namedColumns, List.map_map, Function.comp_def, List.map_id'] at hnames
    refine ⟨hnames, namesAgree_iff.mpr fun one hone => ?_⟩
    obtain ⟨name, -, rfl⟩ := List.mem_map.mp (h.mem_iff.mpr hone)
    rfl
  · intro h
    obtain ⟨hperm, hagree⟩ := h
    rw [namedColumns_eq_map hagree]
    exact hperm.map s.named

/-- Reordering succeeds if and only if every name of the list is the name of a column and there are
as many names as columns; for a list without repetitions this says that it is a permutation of the
columns. On success the columns are the list, each record has the value it had under each name of
the list and no other value, and all columns are kept if and only if the list is a permutation of
them and columns of one name have the same values. On failure the step changes nothing. -/
theorem reorder_keeps_iff (s : Records) (order : List String) :
    ((∃ s', s.reorder order = .ok s') ↔
      (∀ name ∈ order, name ∈ s.columns) ∧ order.length = s.columns.length) ∧
    (order.Perm s.columns → ∃ s', s.reorder order = .ok s') ∧
    (order.Nodup → ((∃ s', s.reorder order = .ok s') ↔ order.Perm s.columns)) ∧
    (∀ s', s.reorder order = .ok s' →
      s'.columns = order ∧
      s'.IsRectangular ∧
      List.Forall₂ (fun r r' => ∀ name,
        s'.value r' name = if name ∈ order then s.value r name else .empty)
        s.records s'.records ∧
      (s'.namedColumns.Perm s.namedColumns ↔ order.Perm s.columns ∧ s.NamesAgree)) ∧
    (∀ error, s.reorder order = .error error → (CleaningStep.reorder order).apply s = s) := by
  have hsuccess : (∃ s', s.reorder order = .ok s') ↔ s.Fits order := by
    simp [reorder_eq_ok_iff]
  refine ⟨hsuccess, fun hperm => hsuccess.mpr (fits_of_perm hperm), fun hnodup => ?_,
    fun s' hs' => ?_, fun error herror => ?_⟩
  · exact hsuccess.trans ⟨perm_of_fits hnodup, fits_of_perm⟩
  · obtain ⟨-, rfl⟩ := reorder_eq_ok_iff.mp hs'
    refine ⟨rfl, ?_, ?_, perm_namedColumns_table_iff⟩
    · intro r hr
      obtain ⟨old, -, rfl⟩ := List.mem_map.mp hr
      simp [table]
    · rw [table, List.forall₂_map_right_iff, List.forall₂_same]
      intro r _ name
      exact value_table r name
  · rw [CleaningStep.apply, herror]

/-- A list that repeats a name is taken, and the column that it does not name is gone. -/
theorem reorder_loses_column :
    let s : Records := ⟨["a", "b"], [⟨[.text "1", .text "2"]⟩]⟩
    s.IsRectangular ∧ ¬ ["a", "a"].Perm s.columns ∧
      s.reorder ["a", "a"] = .ok ⟨["a", "a"], [⟨[.text "1", .text "1"]⟩]⟩ ∧
      ("b", [.text "2"]) ∈ s.namedColumns := by
  intro s
  refine ⟨?_, ?_, ?_, ?_⟩
  · decide
  · decide
  · rfl
  · simp [s, namedColumns]; rfl

end SheetReport.Records
