import SheetReport.Report.Group
import SheetReport.Report.RowPlan

/-!
# Where the groups of a report stand

Every group has a first row, found by the same walk over the groups that plans the rows. The
records of a group fill the rows from there on, and the subtotal row of a larger group comes
right below them; no other planned row holds a record or a subtotal. The total row and the
decorative row are the last two and occur once.

Main statements: `data_mem_plan_iff`, `subtotal_mem_plan_iff`, `total_mem_plan_iff`,
`decorative_mem_plan_iff` say which row stands where, and `pairwise_blocks` that groups do not
reach into each other.
-/

namespace SheetReport

namespace PlannedRow

/-- The row of each group's first record, counted from `row`, after what was planned so far. -/
def startsFrom (last : Last) (row : Nat) : List (List Record) → List Nat
  | [] => []
  | group :: rest =>
    let first := row + (separator last group).length
    first :: startsFrom (last.after group) (first + group.length + (closing group).length) rest

/-- Groups with the rows of their first records, counted from `row`. -/
def blocksFrom (last : Last) (row : Nat) (groups : List (List Record)) :
    List (Nat × List Record) :=
  (startsFrom last row groups).zip groups

/-- The row of each group's first record in a report. -/
def starts (groups : List (List Record)) : List Nat := startsFrom .none 0 groups

/-- The groups of a report with the rows of their first records. -/
def blocks (groups : List (List Record)) : List (Nat × List Record) := (starts groups).zip groups

/-- Every group has a first row. -/
theorem length_startsFrom (last : Last) (row : Nat) (groups : List (List Record)) :
    (startsFrom last row groups).length = groups.length := by
  induction groups generalizing last row with
  | nil => rfl
  | cons group rest ih => simp [startsFrom, ih]

/-- The first group starts behind its separator, and the others behind its closing rows. -/
theorem blocksFrom_cons (last : Last) (row : Nat) (group : List Record)
    (rest : List (List Record)) :
    blocksFrom last row (group :: rest) =
      (row + (separator last group).length, group) ::
        blocksFrom (last.after group)
          (row + (separator last group).length + group.length + (closing group).length) rest := rfl

/-- A separator holds blank rows only. -/
theorem eq_blank_of_mem_separator {last : Last} {group : List Record} {row : PlannedRow}
    {start i : Nat} (h : (row, i) ∈ (separator last group).zipIdx start) : row = .blank := by
  unfold separator at h
  split at h <;> simp at h
  exact h.1

/-- The rows that close a group are its subtotal and a blank row. -/
theorem mem_closing_iff {group : List Record} {row : PlannedRow} {start i : Nat} :
    (row, i) ∈ (closing group).zipIdx start ↔
      1 < group.length ∧
        (row = .subtotal group.length ∧ i = start ∨ row = .blank ∧ i = start + 1) := by
  unfold closing
  split
  · rename_i hlt
    simp [hlt]
  · rename_i hnot
    simp [hnot]

/-- The blank row before the total row is the only row there. -/
theorem eq_blank_of_mem_finalBlank {last : Last} {row : PlannedRow} {start i : Nat}
    (h : (row, i) ∈ (finalBlank last).zipIdx start) : row = .blank := by
  unfold finalBlank at h
  split at h <;> simp at h
  exact h.1

/-- The records of a group fill as many rows. -/
theorem mem_data_iff {group : List Record} {row : PlannedRow} {start i : Nat} :
    (row, i) ∈ (group.map PlannedRow.data).zipIdx start ↔
      ∃ r m, group[m]? = some r ∧ row = .data r ∧ i = start + m := by
  rw [List.mk_mem_zipIdx_iff_le_and_getElem?_sub, List.getElem?_map]
  simp only [Option.map_eq_some_iff]
  constructor
  · intro hboth
    obtain ⟨hle, r, hr, rfl⟩ := hboth
    exact ⟨r, i - start, hr, rfl, by omega⟩
  · intro hex
    obtain ⟨r, m, hm, rfl, rfl⟩ := hex
    exact ⟨by omega, r, by simpa using hm, rfl⟩

/-- A data row of a plan belongs to one record of one group, and every record has its row. -/
theorem data_mem_planFrom_iff {last : Last} {start i : Nat} {groups : List (List Record)}
    {r : Record} :
    (PlannedRow.data r, i) ∈ (planFrom last groups).zipIdx start ↔
      ∃ b ∈ blocksFrom last start groups, ∃ m, b.2[m]? = some r ∧ i = b.1 + m := by
  induction groups generalizing last start with
  | nil =>
    simp only [planFrom, List.zipIdx_append, List.mem_append, blocksFrom, startsFrom,
      List.zip_nil_left, List.not_mem_nil, false_and, exists_false, iff_false, not_or]
    refine ⟨fun h => ?_, by simp⟩
    exact absurd (eq_blank_of_mem_finalBlank h) (by simp)
  | cons group rest ih =>
    rw [planFrom, blocksFrom_cons]
    simp only [List.zipIdx_append, List.mem_append, mem_data_iff, mem_closing_iff, ih,
      List.length_append, List.length_map, List.mem_cons, or_and_right, exists_or,
      exists_eq_left]
    constructor
    · intro hmem
      rcases hmem with ((h | ⟨r', m, hm, heq, rfl⟩) | h) | h
      · exact absurd (eq_blank_of_mem_separator h) (by simp)
      · obtain rfl := PlannedRow.data.inj heq
        exact .inl ⟨m, hm, rfl⟩
      · simp at h
      · exact .inr (by simpa only [Nat.add_assoc] using h)
    · intro hmem
      rcases hmem with ⟨m, hm, rfl⟩ | h
      · exact .inl (.inl (.inr ⟨r, m, hm, rfl, rfl⟩))
      · exact .inr (by simpa only [Nat.add_assoc] using h)

/-- A subtotal row of a plan stands right below the records of one larger group. -/
theorem subtotal_mem_planFrom_iff {last : Last} {start i size : Nat}
    {groups : List (List Record)} :
    (PlannedRow.subtotal size, i) ∈ (planFrom last groups).zipIdx start ↔
      ∃ b ∈ blocksFrom last start groups, 1 < b.2.length ∧ size = b.2.length ∧
        i = b.1 + b.2.length := by
  induction groups generalizing last start with
  | nil =>
    simp only [planFrom, List.zipIdx_append, List.mem_append, blocksFrom, startsFrom,
      List.zip_nil_left, List.not_mem_nil, false_and, exists_false, iff_false, not_or]
    refine ⟨fun h => ?_, by simp⟩
    exact absurd (eq_blank_of_mem_finalBlank h) (by simp)
  | cons group rest ih =>
    rw [planFrom, blocksFrom_cons]
    simp only [List.zipIdx_append, List.mem_append, mem_data_iff, mem_closing_iff, ih,
      List.length_append, List.length_map, List.mem_cons, or_and_right, exists_or,
      exists_eq_left]
    constructor
    · intro hmem
      rcases hmem with ((h | ⟨r', m, hm, heq, rfl⟩) | ⟨hlt, h⟩) | h
      · exact absurd (eq_blank_of_mem_separator h) (by simp)
      · simp at heq
      · rcases h with ⟨heq, rfl⟩ | ⟨heq, -⟩
        · exact .inl ⟨hlt, PlannedRow.subtotal.inj heq, by omega⟩
        · simp at heq
      · exact .inr (by simpa only [Nat.add_assoc] using h)
    · intro hmem
      rcases hmem with ⟨hlt, rfl, rfl⟩ | h
      · exact .inl (.inr ⟨hlt, .inl ⟨rfl, by omega⟩⟩)
      · exact .inr (by simpa only [Nat.add_assoc] using h)

/-- A data row of a report is the row of one record of one group. -/
theorem data_mem_plan_iff {groups : List (List Record)} {i : Nat} {r : Record} :
    (plan groups)[i]? = some (.data r) ↔
      ∃ b ∈ blocks groups, ∃ m, b.2[m]? = some r ∧ i = b.1 + m := by
  rw [← List.mk_mem_zipIdx_iff_getElem?]
  exact data_mem_planFrom_iff

/-- A subtotal row of a report stands right below the records of one larger group. -/
theorem subtotal_mem_plan_iff {groups : List (List Record)} {i size : Nat} :
    (plan groups)[i]? = some (.subtotal size) ↔
      ∃ b ∈ blocks groups, 1 < b.2.length ∧ size = b.2.length ∧ i = b.1 + b.2.length := by
  rw [← List.mk_mem_zipIdx_iff_getElem?]
  exact subtotal_mem_planFrom_iff

/-- All rows before the last two are rows of groups or blank. -/
theorem exists_planFrom_eq (last : Last) (groups : List (List Record)) :
    ∃ front, planFrom last groups = front ++ [.total, .decorative] ∧
      .total ∉ front ∧ .decorative ∉ front := by
  induction groups generalizing last with
  | nil =>
    refine ⟨finalBlank last, rfl, ?_, ?_⟩ <;> unfold finalBlank <;> split <;> simp
  | cons group rest ih =>
    obtain ⟨front, hfront, htotal, hbar⟩ := ih (last.after group)
    refine ⟨separator last group ++ group.map .data ++ closing group ++ front, ?_, ?_, ?_⟩
    · rw [planFrom, hfront]
      simp
    all_goals
      unfold separator closing
      split <;> split <;> simp [htotal, hbar]

/-- A report has at least the total row and the decorative row. -/
theorem two_le_length_plan (groups : List (List Record)) : 2 ≤ (plan groups).length := by
  obtain ⟨front, hfront, -, -⟩ := exists_planFrom_eq .none groups
  simp [plan, hfront]

/-- The total row is the last but one, and the only one. -/
theorem total_mem_plan_iff {groups : List (List Record)} {i : Nat} :
    (plan groups)[i]? = some .total ↔ i + 2 = (plan groups).length := by
  obtain ⟨front, hfront, htotal, -⟩ := exists_planFrom_eq .none groups
  rw [plan, hfront, ← List.mk_mem_zipIdx_iff_getElem?, List.zipIdx_append, List.mem_append]
  have hnot : (PlannedRow.total, i) ∉ front.zipIdx := fun h =>
    htotal (List.fst_mem_of_mem_zipIdx h)
  simp [hnot]

/-- The decorative row is the last, and the only one. -/
theorem decorative_mem_plan_iff {groups : List (List Record)} {i : Nat} :
    (plan groups)[i]? = some .decorative ↔ i + 1 = (plan groups).length := by
  obtain ⟨front, hfront, -, hbar⟩ := exists_planFrom_eq .none groups
  rw [plan, hfront, ← List.mk_mem_zipIdx_iff_getElem?, List.zipIdx_append, List.mem_append]
  have hnot : (PlannedRow.decorative, i) ∉ front.zipIdx := fun h =>
    hbar (List.fst_mem_of_mem_zipIdx h)
  simp [hnot]

/-- Every other row stands above the last two. -/
theorem add_two_lt_length_plan {groups : List (List Record)} {i : Nat} {row : PlannedRow}
    (h : (plan groups)[i]? = some row) (htotal : row ≠ .total) (hbar : row ≠ .decorative) :
    i + 2 < (plan groups).length := by
  obtain ⟨hlt, -⟩ := List.getElem?_eq_some_iff.mp h
  have hnotTotal : i + 2 ≠ (plan groups).length := fun heq =>
    htotal (Option.some.inj (h.symm.trans (total_mem_plan_iff.mpr heq)))
  have hnotBar : i + 1 ≠ (plan groups).length := fun heq =>
    hbar (Option.some.inj (h.symm.trans (decorative_mem_plan_iff.mpr heq)))
  omega

/-- Groups stand one below the other: below a group, its closing rows come before the next. -/
theorem pairwise_blocksFrom (last : Last) (start : Nat) (groups : List (List Record)) :
    (∀ b ∈ blocksFrom last start groups, start ≤ b.1) ∧
      (blocksFrom last start groups).Pairwise fun a b =>
        a.1 + a.2.length + (closing a.2).length ≤ b.1 := by
  induction groups generalizing last start with
  | nil => simp [blocksFrom, startsFrom]
  | cons group rest ih =>
    rw [blocksFrom_cons]
    obtain ⟨hle, hpairwise⟩ := ih (last.after group)
      (start + (separator last group).length + group.length + (closing group).length)
    refine ⟨?_, List.pairwise_cons.mpr ⟨fun b hb => hle b hb, hpairwise⟩⟩
    intro b hb
    rcases List.mem_cons.mp hb with rfl | hb
    · exact Nat.le_add_right _ _
    · have := hle b hb
      omega

/-- Groups of a report do not reach into each other. -/
theorem pairwise_blocks (groups : List (List Record)) :
    (blocks groups).Pairwise fun a b => a.1 + a.2.length + (closing a.2).length ≤ b.1 :=
  (pairwise_blocksFrom .none 0 groups).2

/-- The record of a data row. -/
def record? : PlannedRow → Option Record
  | .data r => some r
  | _ => none

/-- The data rows of the remaining groups, read from top to bottom, are their records in order. -/
theorem filterMap_record?_planFrom (last : Last) (groups : List (List Record)) :
    (planFrom last groups).filterMap record? = groups.flatten := by
  induction groups generalizing last with
  | nil =>
    rw [planFrom]
    unfold finalBlank
    split <;> rfl
  | cons group rest ih =>
    have hsep : (separator last group).filterMap record? = [] := by
      unfold separator
      split <;> rfl
    have hclosing : (closing group).filterMap record? = [] := by
      unfold closing
      split <;> rfl
    have hdata : (group.map PlannedRow.data).filterMap record? = group := by
      rw [List.filterMap_map]
      exact List.filterMap_some
    rw [planFrom]
    simp only [List.filterMap_append, hsep, hclosing, hdata, ih, List.nil_append,
      List.append_nil, List.flatten_cons]

/-- The data rows of a report, read from top to bottom, are the records of the groups in order. -/
theorem filterMap_record?_plan (groups : List (List Record)) :
    (plan groups).filterMap record? = groups.flatten :=
  filterMap_record?_planFrom .none groups

end PlannedRow

end SheetReport
