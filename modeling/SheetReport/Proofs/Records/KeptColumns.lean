import SheetReport.Proofs.Records.Table

/-!
# Keeping columns of ragged records

Columns that are not kept are dropped by name, first match first, and every removal moves the
columns behind it. Names may repeat, and a record may end before the columns do or go on behind
them. The names to drop stand in the order of the columns, so when a name comes up, everything left
of its first match stays for good: the removals are followed along the columns, and at each column
a removal either takes the front value or leaves it alone. Full width and distinct names are not
assumed.

Main statement: `keepColumns_selects_positions`.
-/

namespace SheetReport

/-- The values of a record at some positions, as far as it has them, and then its values beyond a
width. -/
def Record.choose (r : Record) (positions : List Nat) (width : Nat) : Record :=
  ⟨positions.filterMap (fun i => r.values[i]?) ++ r.values.drop width⟩

namespace CleaningStep

/-- The positions of the columns that a list names, first to last. -/
def keptPositions (keep columns : List String) : List Nat :=
  (List.range columns.length).filter fun i => columns[i]?.any keep.contains

/-- The values of a record after the columns of some names are dropped one after another. -/
def valuesWithoutAll : List String → List String → List Value → List Value
  | [], _, values => values
  | name :: rest, columns, values =>
    valuesWithoutAll rest (columns.erase name) (valuesWithout name columns values)

variable {names columns : List String} {values : List Value} {name : String}

/-- Dropping columns one after another treats each record by itself. -/
theorem foldl_dropColumn_eq (names : List String) (s : Records) :
    names.foldl dropColumn s =
      ⟨names.foldl List.erase s.columns,
        s.records.map fun r => ⟨valuesWithoutAll names s.columns r.values⟩⟩ := by
  induction names generalizing s with
  | nil => simp only [List.foldl_nil, valuesWithoutAll, List.map_id']
  | cons name rest ih =>
    rw [List.foldl_cons, dropColumn_eq, ih, List.foldl_cons, List.map_map]
    rfl

/-- A record that has ended has nothing to remove. -/
theorem valuesWithoutAll_nil : valuesWithoutAll names columns [] = [] := by
  induction names generalizing columns with
  | nil => rfl
  | cons name rest ih =>
    rw [valuesWithoutAll, valuesWithout, List.eraseIdx_nil, ite_self, ih]

/-- The value under a column that stays is left alone. -/
theorem valuesWithoutAll_cons_of_notMem {v : Value} (h : name ∉ names) :
    valuesWithoutAll names (name :: columns) (v :: values) =
      v :: valuesWithoutAll names columns values := by
  induction names generalizing columns values with
  | nil => rfl
  | cons other rest ih =>
    obtain ⟨hne, hrest⟩ := not_or.mp (mt List.mem_cons.mpr h)
    have hvalues : valuesWithout other (name :: columns) (v :: values) =
        v :: valuesWithout other columns values := by
      by_cases hmem : other ∈ columns
      · simp [valuesWithout, hmem, List.idxOf_cons_ne _ hne]
      · simp [valuesWithout, hmem, Ne.symm hne]
    rw [valuesWithoutAll, hvalues, List.erase_cons_tail (by simpa using hne), ih hrest]
    rfl

/-- The value under the first column goes with the column. -/
theorem valuesWithoutAll_cons_self {v : Value} :
    valuesWithoutAll (name :: names) (name :: columns) (v :: values) =
      valuesWithoutAll names columns values := by
  simp [valuesWithoutAll, valuesWithout]

/-- The first column is the first position, and all others stand one further. -/
theorem keptPositions_cons (keep : List String) :
    keptPositions keep (name :: columns) =
      (if keep.contains name then [0] else []) ++ (keptPositions keep columns).map Nat.succ := by
  rw [keptPositions, List.length_cons, List.range_succ_eq_map, List.filter_cons, List.filter_map]
  by_cases hkeep : name ∈ keep <;> simp [hkeep, keptPositions, Function.comp_def]

/-- Dropping the columns that a list does not name leaves the values at the kept positions and those
beyond the columns. -/
theorem valuesWithoutAll_filter (keep : List String) :
    valuesWithoutAll (columns.filter fun c => !keep.contains c) columns values =
      (keptPositions keep columns).filterMap (fun i => values[i]?) ++
        values.drop columns.length := by
  induction columns generalizing values with
  | nil => simp [valuesWithoutAll, keptPositions]
  | cons name rest ih =>
    cases values with
    | nil => simp [valuesWithoutAll_nil]
    | cons v values =>
      rw [keptPositions_cons, List.filterMap_append, List.filterMap_map, List.length_cons,
        List.drop_succ_cons]
      by_cases hkeep : name ∈ keep
      · have hnot : name ∉ rest.filter fun c => !keep.contains c := by simp [hkeep]
        rw [List.filter_cons_of_neg (by simp [hkeep]), valuesWithoutAll_cons_of_notMem hnot, ih]
        simp [hkeep]
      · rw [List.filter_cons_of_pos (by simp [hkeep]), valuesWithoutAll_cons_self, ih]
        simp [hkeep]

/-- The columns at the kept positions are those that the list names. -/
theorem filterMap_keptPositions (keep : List String) :
    (keptPositions keep columns).filterMap (fun i => columns[i]?) =
      columns.filter keep.contains := by
  induction columns with
  | nil => rfl
  | cons name rest ih =>
    rw [keptPositions_cons, List.filterMap_append, List.filterMap_map, List.filter_cons]
    by_cases hkeep : name ∈ keep <;> simpa [hkeep] using ih

/-- The values at the kept positions stand under the names of their columns. -/
theorem zip_filter_choose (keep : List String) :
    (columns.filter keep.contains).zip
        ((keptPositions keep columns).filterMap (fun i => values[i]?) ++
          values.drop columns.length) =
      (columns.zip values).filter fun e => keep.contains e.1 := by
  induction columns generalizing values with
  | nil => simp
  | cons name rest ih =>
    cases values with
    | nil => simp
    | cons v values =>
      rw [keptPositions_cons, List.filterMap_append, List.filterMap_map, List.length_cons,
        List.drop_succ_cons, List.zip_cons_cons, List.filter_cons, List.filter_cons]
      have htail := @ih values
      by_cases hkeep : name ∈ keep <;> simpa [hkeep] using htail

/-- Keeping columns leaves the columns that the list names, in their order and with all
repetitions. Of each record it leaves the values at the positions of these columns, as far as the
record has them, and behind them what the record had beyond its columns. So a value that is left
stands under the same name as before. -/
theorem keepColumns_selects_positions (keep : List String) (s : Records) :
    (keepColumns keep).apply s =
        ⟨s.columns.filter keep.contains,
          s.records.map (·.choose (keptPositions keep s.columns) s.columns.length)⟩ ∧
      (keptPositions keep s.columns).filterMap (fun i => s.columns[i]?) =
        s.columns.filter keep.contains ∧
      ∀ r : Record, (s.columns.filter keep.contains).zip
          (r.choose (keptPositions keep s.columns) s.columns.length).values =
        (s.columns.zip r.values).filter fun e => keep.contains e.1 := by
  refine ⟨?_, filterMap_keptPositions keep, fun r => zip_filter_choose keep⟩
  rw [apply, foldl_dropColumn_eq, foldl_erase_filter]
  simp only [Bool.not_not, valuesWithoutAll_filter, Record.choose]

/-- A record that ends early keeps what it has; one that goes on keeps the rest. -/
example : (keepColumns ["b"]).apply
    ⟨["a", "b", "a", "b"], [⟨[.empty, .text "short"]⟩,
      ⟨[.bool true, .text "one", .bool false, .text "two", .text "beyond"]⟩]⟩ =
    ⟨["b", "b"], [⟨[.text "short"]⟩, ⟨[.text "one", .text "two", .text "beyond"]⟩]⟩ := by
  decide

end CleaningStep

end SheetReport
