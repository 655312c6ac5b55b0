import Mathlib.Data.List.Chain
import SheetReport.Proofs.Report.RowBlocks

/-!
# The grammar of planned rows

A plan is built group by group, and what was planned so far matters to the next group only
through the last row: whether there is one, and whether it is blank. That this is what `Last`
says of the rows is the invariant of the walk; with it no two blank rows meet, and the rows of a
larger group stand between blank rows wherever the group comes.

Main statement: `plan_grammar`.
-/

namespace SheetReport

namespace PlannedRow

/-- The size of a subtotal row. -/
def subtotal? : PlannedRow → Option Nat
  | .subtotal size => some size
  | _ => none

/-- The rows that a group adds. -/
def groupRows (last : Last) (group : List Record) : List PlannedRow :=
  separator last group ++ group.map .data ++ closing group

/-- The rows that groups add. -/
def rowsFrom (last : Last) : List (List Record) → List PlannedRow
  | [] => []
  | group :: rest => groupRows last group ++ rowsFrom (last.after group) rest

/-- The last row after the rows of groups. -/
def Last.afterAll (last : Last) (groups : List (List Record)) : Last := groups.foldl after last

/-- The plan of groups begins with the rows of the first ones. -/
theorem planFrom_append (last : Last) (left right : List (List Record)) :
    planFrom last (left ++ right) = rowsFrom last left ++ planFrom (last.afterAll left) right := by
  induction left generalizing last with
  | nil => rfl
  | cons group rest ih =>
    calc
      planFrom last (group :: rest ++ right) =
          groupRows last group ++ planFrom (last.after group) (rest ++ right) := rfl
      _ = groupRows last group ++ (rowsFrom (last.after group) rest ++
          planFrom (last.afterAll (group :: rest)) right) := by
        rw [ih]
        rfl
      _ = rowsFrom last (group :: rest) ++ planFrom (last.afterAll (group :: rest)) right := by
        rw [rowsFrom, List.append_assoc]

/-- After the rows of all groups, at most a blank row comes before the last two. -/
theorem planFrom_eq (last : Last) (groups : List (List Record)) :
    planFrom last groups =
      rowsFrom last groups ++ (finalBlank (last.afterAll groups) ++ [.total, .decorative]) := by
  have happend := planFrom_append last groups []
  rwa [List.append_nil] at happend

/-- Rows show groups if their data rows are the records of the groups in order, and their
subtotals have the sizes of the larger groups in order. -/
structure Shows (rows : List PlannedRow) (groups : List (List Record)) : Prop where
  records_eq : rows.filterMap record? = groups.flatten
  sizes_eq : rows.filterMap subtotal? = (groups.filter (1 < ·.length)).map List.length

/-- Rows without records and subtotals do not matter to what is shown. -/
theorem shows_append_iff {rows more : List PlannedRow} {groups : List (List Record)}
    (hrecords : more.filterMap record? = []) (hsizes : more.filterMap subtotal? = []) :
    Shows (rows ++ more) groups ↔ Shows rows groups := by
  have happend : (rows ++ more).filterMap record? = rows.filterMap record? ∧
      (rows ++ more).filterMap subtotal? = rows.filterMap subtotal? := by
    simp [hrecords, hsizes]
  constructor
  · rintro ⟨hrecords', hsizes'⟩
    exact ⟨happend.1 ▸ hrecords', happend.2 ▸ hsizes'⟩
  · rintro ⟨hrecords', hsizes'⟩
    exact ⟨happend.1.trans hrecords', happend.2.trans hsizes'⟩

/-- The subtotals of the remaining groups, read from top to bottom, have the sizes of the larger
ones. -/
theorem filterMap_subtotal?_planFrom (last : Last) (groups : List (List Record)) :
    (planFrom last groups).filterMap subtotal? =
      (groups.filter (1 < ·.length)).map List.length := by
  induction groups generalizing last with
  | nil =>
    rw [planFrom]
    unfold finalBlank
    split <;> rfl
  | cons group rest ih =>
    have hsep : (separator last group).filterMap subtotal? = [] := by
      unfold separator
      split <;> rfl
    have hdata : (group.map PlannedRow.data).filterMap subtotal? = [] := by
      rw [List.filterMap_map]
      exact List.filterMap_eq_nil_iff.mpr fun _ _ => rfl
    have hsizes : ((group :: rest).filter (1 < ·.length)).map List.length =
        (closing group).filterMap subtotal? ++ (rest.filter (1 < ·.length)).map List.length := by
      unfold closing
      by_cases hlarge : 1 < group.length
      · simp [hlarge, subtotal?]
      · simp [hlarge]
    rw [planFrom, hsizes]
    simp only [List.filterMap_append, hsep, hdata, ih, List.nil_append]

/-- A plan shows its groups. -/
theorem shows_planFrom (last : Last) (groups : List (List Record)) :
    Shows (planFrom last groups) groups :=
  ⟨filterMap_record?_planFrom last groups, filterMap_subtotal?_planFrom last groups⟩

/-- The rows of groups show the groups. -/
theorem shows_rowsFrom (last : Last) (groups : List (List Record)) :
    Shows (rowsFrom last groups) groups := by
  have hplan := shows_planFrom last groups
  rw [planFrom_eq] at hplan
  refine (shows_append_iff ?_ ?_).mp hplan
  all_goals
    unfold finalBlank
    split <;> rfl

/-- No two blank rows follow each other. -/
def NoDoubleBlank (rows : List PlannedRow) : Prop :=
  rows.IsChain fun a b => ¬ (a = .blank ∧ b = .blank)

/-- Rows that do not begin with a blank row can follow any rows. -/
theorem NoDoubleBlank.append {rows more : List PlannedRow} (h : NoDoubleBlank rows)
    (hmore : NoDoubleBlank more) (hhead : more.head? ≠ some .blank) :
    NoDoubleBlank (rows ++ more) := by
  refine List.isChain_append.mpr ⟨h, hmore, fun a _ b hb hboth => hhead ?_⟩
  rw [← hboth.2]
  exact hb

/-- A blank row can follow rows that do not end with one. -/
theorem NoDoubleBlank.append_blank {rows : List PlannedRow} (h : NoDoubleBlank rows)
    (hlast : rows.getLast? ≠ some .blank) : NoDoubleBlank (rows ++ [.blank]) := by
  refine List.isChain_append.mpr ⟨h, .singleton _, fun a ha b _ hboth => hlast ?_⟩
  rw [← hboth.1]
  exact ha

/-- Data rows are not blank. -/
theorem noDoubleBlank_data (group : List Record) : NoDoubleBlank (group.map .data) :=
  List.Pairwise.isChain (List.pairwise_map.mpr (List.pairwise_of_forall fun _ _ h => by simp at h))

/-- What is said of the rows planned so far. -/
def Last.Describes : Last → List PlannedRow → Prop
  | .none, rows => rows = []
  | .data, rows => ∃ r, rows.getLast? = some (.data r)
  | .blank, rows => rows.getLast? = some .blank

/-- The invariant of planning: the last row is as said, and no two blank rows follow each
other. -/
structure Last.Fits (last : Last) (rows : List PlannedRow) : Prop where
  describes : last.Describes rows
  noDoubleBlank : NoDoubleBlank rows

variable {last : Last} {rows : List PlannedRow}

/-- Before a larger group there is a blank row, if there is any. -/
theorem Last.Fits.separated (h : last.Fits rows) {group : List Record}
    (hlarge : 1 < group.length) :
    NoDoubleBlank (rows ++ separator last group) ∧
      (rows ++ separator last group = [] ∨
        (rows ++ separator last group).getLast? = some .blank) := by
  obtain ⟨hlast, hrows⟩ := h
  cases last with
  | none =>
    obtain rfl := hlast
    exact ⟨.nil, .inl rfl⟩
  | data =>
    obtain ⟨r, hr⟩ := hlast
    rw [separator, if_pos ⟨rfl, hlarge⟩]
    exact ⟨hrows.append_blank (by simp [hr]), .inr List.getLast?_concat⟩
  | blank =>
    rw [separator, if_neg (by simp), List.append_nil]
    exact ⟨hrows, .inr hlast⟩

/-- The rows of a group keep the invariant. -/
theorem Last.Fits.append_groupRows (h : last.Fits rows) (group : List Record) :
    (last.after group).Fits (rows ++ groupRows last group) := by
  rcases group with _ | ⟨r, _ | ⟨r', rest⟩⟩
  · simpa [groupRows, separator, closing, Last.after] using h
  · have hrows : groupRows last [r] = [.data r] := by simp [groupRows, separator, closing]
    rw [hrows]
    exact ⟨⟨r, List.getLast?_concat⟩, h.noDoubleBlank.append (.singleton _) (by simp)⟩
  · have hlarge : 1 < (r :: r' :: rest).length := by simp
    have hclosing : closing (r :: r' :: rest) =
        [.subtotal (r :: r' :: rest).length] ++ [.blank] := if_pos hlarge
    obtain ⟨hseparated, -⟩ := h.separated hlarge
    rw [groupRows, hclosing, ← List.append_assoc, ← List.append_assoc, ← List.append_assoc]
    refine ⟨List.getLast?_concat, ?_⟩
    rw [List.append_assoc _ [_]]
    refine (hseparated.append (noDoubleBlank_data _) (by simp)).append ?_ (by simp)
    exact .cons_cons (by simp) (.singleton _)

/-- The rows of all groups keep the invariant. -/
theorem Last.Fits.append_rowsFrom (h : last.Fits rows) (groups : List (List Record)) :
    (last.afterAll groups).Fits (rows ++ rowsFrom last groups) := by
  induction groups generalizing last rows with
  | nil => simpa [rowsFrom, Last.afterAll] using h
  | cons group rest ih =>
    rw [rowsFrom, ← List.append_assoc]
    exact ih (h.append_groupRows group)

/-- The rows of the first groups of a plan meet the invariant. -/
theorem fits_rowsFrom (groups : List (List Record)) :
    (Last.afterAll .none groups).Fits (rowsFrom .none groups) := by
  have hstart : Last.none.Fits [] := ⟨rfl, .nil⟩
  exact hstart.append_rowsFrom groups

/-- Before the total row there is a blank row. -/
theorem Last.Fits.closed (h : last.Fits rows) :
    NoDoubleBlank (rows ++ finalBlank last) ∧
      ∃ front, rows ++ finalBlank last = front ++ [.blank] := by
  obtain ⟨hlast, hrows⟩ := h
  cases last with
  | none =>
    obtain rfl := hlast
    exact ⟨.singleton _, [], rfl⟩
  | data =>
    obtain ⟨r, hr⟩ := hlast
    exact ⟨hrows.append_blank (by simp [hr]), rows, rfl⟩
  | blank =>
    obtain ⟨front, hfront⟩ := List.getLast?_eq_some_iff.mp hlast
    have hnone : rows ++ finalBlank .blank = rows := List.append_nil rows
    rw [hnone]
    exact ⟨hrows, front, hfront⟩

/-- The grammar of the rows of nonempty groups. Data rows and subtotals show the groups in order.
No two blank rows follow each other, and the first row is blank only without groups. The records
of a larger group come right behind a blank row or first, and a subtotal and a blank row come
right below them; a single record is one row. A blank row, the total row and the decorative row
come last, the latter two nowhere else. -/
theorem plan_grammar {groups : List (List Record)} (h : ∀ group ∈ groups, group ≠ []) :
    Shows (plan groups) groups ∧
    NoDoubleBlank (plan groups) ∧
    ((plan groups).head? = some .blank ↔ groups = []) ∧
    (∀ left group right, groups = left ++ group :: right → 1 < group.length →
      ∃ above below,
        plan groups =
          above ++ group.map .data ++ [.subtotal group.length, .blank] ++ below ∧
        Shows above left ∧ Shows below right ∧
        (above = [] ∨ above.getLast? = some .blank)) ∧
    (∀ left r right, groups = left ++ [r] :: right →
      ∃ above below, plan groups = above ++ [.data r] ++ below ∧
        Shows above left ∧ Shows below right) ∧
    ∃ front, plan groups = front ++ [.blank, .total, .decorative] ∧
      .total ∉ front ∧ .decorative ∉ front := by
  have hplan (left : List (List Record)) (group : List Record) (right : List (List Record)) :
      plan (left ++ group :: right) =
        rowsFrom .none left ++ (separator (Last.afterAll .none left) group ++
          group.map .data ++ closing group ++
          planFrom ((Last.afterAll .none left).after group) right) :=
    planFrom_append .none left (group :: right)
  refine ⟨shows_planFrom .none groups, ?_, ?_, ?_, ?_, ?_⟩
  · rw [plan, planFrom_eq, ← List.append_assoc]
    obtain ⟨hclosed, -⟩ := (fits_rowsFrom groups).closed
    exact hclosed.append (.cons_cons (by simp) (.singleton _)) (by simp)
  · cases groups with
    | nil => simp [plan, planFrom, finalBlank]
    | cons group rest =>
      obtain ⟨r, group, rfl⟩ := List.exists_cons_of_ne_nil (h group List.mem_cons_self)
      simp [plan, planFrom, separator]
  · rintro left group right rfl hlarge
    refine ⟨rowsFrom .none left ++ separator (Last.afterAll .none left) group,
      planFrom ((Last.afterAll .none left).after group) right, ?_, ?_, shows_planFrom _ right,
      ((fits_rowsFrom left).separated hlarge).2⟩
    · rw [hplan, closing, if_pos hlarge]
      simp only [List.append_assoc]
    · refine (shows_append_iff ?_ ?_).mpr (shows_rowsFrom .none left)
      all_goals
        unfold separator
        split <;> rfl
  · rintro left r right rfl
    refine ⟨rowsFrom .none left, planFrom ((Last.afterAll .none left).after [r]) right, ?_,
      shows_rowsFrom _ left, shows_planFrom _ right⟩
    rw [hplan]
    simp [separator, closing]
  · obtain ⟨front, hfront, htotal, hbar⟩ := exists_planFrom_eq .none groups
    obtain ⟨-, front', hfront'⟩ := (fits_rowsFrom groups).closed
    have heq : front = front' ++ [.blank] := by
      rw [planFrom_eq, ← List.append_assoc, hfront'] at hfront
      exact (List.append_cancel_right hfront).symm
    subst heq
    refine ⟨front', ?_, fun hmem => htotal (List.mem_append_left _ hmem),
      fun hmem => hbar (List.mem_append_left _ hmem)⟩
    rw [plan, hfront, List.append_assoc]
    rfl

/-- A group of two between single records stands between blank rows, with its subtotal. -/
theorem plan_grammar_of_three_groups :
    let r : Record := ⟨[]⟩
    (∀ group ∈ [[r], [r, r], [r]], group ≠ []) ∧
      NoDoubleBlank (plan [[r], [r, r], [r]]) ∧
      (plan [[r], [r, r], [r]]).head? ≠ some .blank ∧
      ∃ above below,
        plan [[r], [r, r], [r]] =
          above ++ [.data r, .data r] ++ [.subtotal 2, .blank] ++ below ∧
        above.getLast? = some .blank := by
  intro r
  have hne : ∀ group ∈ [[r], [r, r], [r]], group ≠ [] := by decide
  obtain ⟨-, hblank, hhead, hlarge, -, -⟩ := plan_grammar hne
  obtain ⟨above, below, hplan, hshows, -, habove⟩ := hlarge [[r]] [r, r] [[r]] rfl (by decide)
  refine ⟨hne, hblank, fun h => by simpa using hhead.mp h, above, below, hplan, ?_⟩
  rcases habove with rfl | hlast
  · exact absurd hshows.records_eq (by simp)
  · exact hlast

end PlannedRow

end SheetReport
