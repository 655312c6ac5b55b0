import SheetReport.Proofs.Report.Grouping
import SheetReport.Proofs.Report.Masking

/-!
# Grouping does not read the texts of other columns

Records are sorted and gathered by their dates, line items and creative sizes. With the texts of
any other column hidden, the same groups come out in the same order, or the same error.

Main statements: `Grouper.build_masked` for the groups and `PlannedRow.map_masked_plan` for their
rows.
-/

namespace SheetReport

/-- A record with its texts in a column hidden. -/
def Record.masked (columns : List String) (column : String) (r : Record) : Record :=
  ⟨r.values.mapIdx fun i v => if columns[i]? = some column then v.masked else v⟩

/-- A record set with its texts in a column hidden. -/
def Records.masked (column : String) (s : Records) : Records :=
  { s with records := s.records.map (Record.masked s.columns column) }

/-- A member with its texts in a column hidden. -/
def Member.masked (columns : List String) (column : String) (m : Member) : Member :=
  { m with record := m.record.masked columns column }

/-- A group with its texts in a column hidden. -/
def Group.masked (columns : List String) (column : String) (b : Group) : Group :=
  { b with members := b.members.map (Member.masked columns column) }

variable {columns : List String} {column name : String}

/-- Only the fields under the column are masked. -/
theorem Record.get_masked (r : Record) (i : Nat) :
    (r.masked columns column).get i =
      if columns[i]? = some column then (r.get i).masked else r.get i := by
  simp only [get, masked, List.getD_eq_getElem?_getD, List.getElem?_mapIdx]
  cases r.values[i]? with
  | none =>
    have hempty : Value.masked .empty = .empty := rfl
    simp [hempty]
  | some v => rfl

/-- A field under another name is as it was. -/
theorem Records.value_masked (s : Records) (r : Record) (h : name ≠ column) :
    (s.masked column).value (r.masked s.columns column) name = s.value r name := by
  have hindex' : (s.masked column).index? name = s.index? name := rfl
  rw [value, value, hindex']
  cases hindex : s.index? name with
  | none => rfl
  | some i =>
    obtain ⟨hlt, hi, -⟩ := List.findIdx?_eq_some_iff_getElem.mp hindex
    have hname : s.columns[i]? = some name := by
      rw [List.getElem?_eq_getElem hlt, beq_iff_eq.mp hi]
    simp only [Record.get_masked, hname, Option.some.injEq, if_neg h]

/-- Masking keeps the number of records in a group. -/
theorem Group.size_masked (b : Group) : (b.masked columns column).size = b.size :=
  List.length_map _

/-- The records of a masked group are masked. -/
theorem Group.records_masked (b : Group) :
    (b.masked columns column).records = b.records.map (Record.masked columns column) := by
  simp only [records, masked, List.map_map]
  rfl

/-- Masked members gather to the masked groups. -/
theorem Group.gather_masked (keyed : List (GroupKey × Member)) :
    gather (keyed.map (Prod.map id (Member.masked columns column))) =
      (gather keyed).map (masked columns column) :=
  gather_map _ keyed

namespace Grouper

/-- Whether grouping reads a column. -/
def Reads (g : Grouper) (column : String) : Prop :=
  column = g.rules.lineItem ∨ column = g.rules.startDate ∨ column = g.rules.endDate ∨
    column = g.rules.creativeSize

variable {g : Grouper} {s : Records} {lineItem : Nat}

/-- Masking another column leaves the field of the line item. -/
theorem get_lineItem_masked (h : g.rules.lineItem ≠ column)
    (hrequire : s.require g.rules.lineItem = .ok lineItem) (r : Record) :
    (r.masked s.columns column).get lineItem = r.get lineItem := by
  have hrequire' : (s.masked column).require g.rules.lineItem = .ok lineItem := hrequire
  calc
    (r.masked s.columns column).get lineItem =
        (s.masked column).value (r.masked s.columns column) g.rules.lineItem :=
      (Records.value_eq_get hrequire' _).symm
    _ = s.value r g.rules.lineItem := Records.value_masked s r h
    _ = r.get lineItem := Records.value_eq_get hrequire r

/-- Masking a column that grouping does not read leaves the order of records. -/
theorem compare_masked (h : ¬ g.Reads column) (hrequire : s.require g.rules.lineItem = .ok lineItem)
    (r r' : Record) :
    g.compare (s.masked column) lineItem (r.masked s.columns column)
        (r'.masked s.columns column) =
      g.compare s lineItem r r' := by
  simp only [Reads, not_or, eq_comm (a := column)] at h
  obtain ⟨hline, hstart, -, hsize⟩ := h
  simp only [compare, Records.value_masked s _ hstart, Records.value_masked s _ hsize,
    get_lineItem_masked hline hrequire]

/-- Masking a column that grouping does not read leaves the keys of records. -/
theorem keyOf_masked (h : ¬ g.Reads column) (hrequire : s.require g.rules.lineItem = .ok lineItem)
    (m : Member) :
    g.keyOf (s.masked column) lineItem (m.masked s.columns column) = g.keyOf s lineItem m := by
  simp only [Reads, not_or, eq_comm (a := column)] at h
  obtain ⟨hline, hstart, hend, -⟩ := h
  simp only [keyOf, Member.masked, Records.value_masked s _ hstart,
    Records.value_masked s _ hend, get_lineItem_masked hline hrequire]

/-- The masked records come in the same order. -/
theorem sorted_masked (h : ¬ g.Reads column)
    (hrequire : s.require g.rules.lineItem = .ok lineItem) :
    g.sorted (s.masked column) lineItem =
      (g.sorted s lineItem).map (Member.masked s.columns column) := by
  have hmembers : members (s.masked column) =
      (members s).map (Member.masked s.columns column) := by
    simp only [members, Records.masked, List.zipIdx_map, List.map_map]
    rfl
  rw [sorted, sorted, hmembers]
  refine (List.map_mergeSort fun m _ m' _ => ?_).symm
  simp only [Member.masked, compare_masked h hrequire]

/-- The groups of masked records are the masked groups, and the errors are the same. -/
theorem build_masked (h : ¬ g.Reads column) :
    g.build (s.masked column) = (g.build s).map (List.map (Group.masked s.columns column)) := by
  have hrequire : (s.masked column).require g.rules.lineItem = s.require g.rules.lineItem := rfl
  rw [build, hrequire, build]
  cases hline : s.require g.rules.lineItem with
  | error error => rfl
  | ok lineItem =>
    have hkeyed : ((g.sorted (s.masked column) lineItem).mapM fun m =>
        (g.keyOf (s.masked column) lineItem m).map (·, m)) =
          ((g.sorted s lineItem).mapM fun m => (g.keyOf s lineItem m).map (·, m)).map
            (List.map (Prod.map id (Member.masked s.columns column))) := by
      rw [sorted_masked h hline, List.mapM_map, ← mapM_map_eq]
      congr 1
      funext m
      simp only [Function.comp_apply, keyOf_masked h hline]
      cases g.keyOf s lineItem m <;> rfl
    simp only [bind, Except.bind, hkeyed]
    cases (g.sorted s lineItem).mapM fun m => (g.keyOf s lineItem m).map (·, m) with
    | error error => rfl
    | ok keyed => simp only [Except.map, Group.gather_masked]

end Grouper

namespace PlannedRow

/-- A row with its texts in a column hidden. -/
def masked (columns : List String) (column : String) : PlannedRow → PlannedRow
  | .data r => .data (r.masked columns column)
  | row => row

/-- The rows of masked groups are the masked rows. -/
theorem map_masked_plan (groups : List (List Record)) :
    plan (groups.map (List.map (Record.masked columns column))) =
      (plan groups).map (masked columns column) := by
  have step (last : Last) : planFrom last (groups.map (List.map (Record.masked columns column))) =
      (planFrom last groups).map (masked columns column) := by
    induction groups generalizing last with
    | nil =>
      simp only [List.map_nil, planFrom, finalBlank]
      split <;> rfl
    | cons group rest ih =>
      have hafter : last.after (group.map (Record.masked columns column)) = last.after group := by
        rcases group with _ | ⟨_, _ | ⟨_, _⟩⟩ <;> rfl
      simp only [List.map_cons, planFrom, List.map_append, hafter, ih, separator, closing,
        List.length_map, List.map_map]
      congr 2
      · congr 1
        split <;> rfl
      · split <;> rfl
  exact step .none

/-- A row shows the same in a column as the masked row, up to hidden texts. -/
theorem masked_cellValue (row : PlannedRow) (i : Nat) (name : String) :
    ((row.masked columns column).cellValue i name).masked = (row.cellValue i name).masked := by
  cases row with
  | data r =>
    simp only [masked, cellValue, Record.get_masked]
    by_cases hcolumn : columns[i]? = some column
    · simp only [if_pos hcolumn, Value.isEmpty_masked]
      split
      · rfl
      · rw [Value.masked_masked]
    · simp only [if_neg hcolumn]
  | _ => rfl

end PlannedRow

end SheetReport
