import Mathlib.Data.List.Nodup
import Mathlib.Data.List.Pairwise
import SheetReport.Proofs.Sheet.ColumnCells
import SheetReport.Proofs.Style.Merging

/-!
# Accepted ranges share no cell

Whether two ranges overlap is told by their corners. For ranges that have a cell at all this is the
same as having a cell in common, however they lie: side by side, one in the other or across each
other. So a plan that accepts a range only if it overlaps no accepted one has disjoint ranges after
any calls, and a cell lies in one of them at most. Ranges whose corners are exchanged have no cells;
they are left out here.

Main statements: `HasDisjointMerges.foldl_addMerge`, `HasDisjointMerges.addMerge?_eq_none_iff` and
`HasDisjointMerges.mergeAt?_eq_some_iff`.
-/

namespace SheetReport

namespace Extent

/-- Whether the first corner lies neither below nor right of the last one. -/
def IsRectangle (e : Extent) : Prop := e.first.row ≤ e.last.row ∧ e.first.col ≤ e.last.col

/-- Whether two ranges have a cell in common. -/
def SharesCell (a b : Extent) : Prop := ∃ c ∈ a.cells, c ∈ b.cells

instance (e : Extent) : Decidable e.IsRectangle := inferInstanceAs (Decidable (_ ∧ _))

instance (a b : Extent) : Decidable (a.SharesCell b) :=
  inferInstanceAs (Decidable (∃ c ∈ a.cells, _))

variable {a b e : Extent}

/-- A common cell is one of either range. -/
theorem SharesCell.symm (h : a.SharesCell b) : b.SharesCell a := by
  obtain ⟨c, ha, hb⟩ := h
  exact ⟨c, hb, ha⟩

instance : Std.Symm fun a b : Extent => ¬ a.SharesCell b := ⟨fun _ _ hnot h => hnot h.symm⟩

/-- The lower of two first rows and the righter of two first columns meet in a cell of both ranges,
if they overlap. -/
theorem overlaps_iff_sharesCell (ha : a.IsRectangle) (hb : b.IsRectangle) :
    a.overlaps b = true ↔ a.SharesCell b := by
  constructor
  · intro h
    have hrow := Nat.max_lt.mpr ⟨a.first.row_lt, b.first.row_lt⟩
    have hcol := Nat.max_lt.mpr ⟨a.first.col_lt, b.first.col_lt⟩
    let corner : Cell :=
      ⟨max a.first.row b.first.row, max a.first.col b.first.col, hrow, hcol⟩
    refine ⟨corner, mem_cells.mpr ?_, mem_cells.mpr ?_⟩ <;>
    · unfold IsRectangle at ha hb
      simp only [overlaps, contains, corner, Bool.and_eq_true, decide_eq_true_eq] at h ⊢
      omega
  · rintro ⟨c, hca, hcb⟩
    exact overlaps_of_contains (mem_cells.mp hca) (mem_cells.mp hcb)

/-- The cells of a range go down the sheet. -/
theorem pairwise_cells (e : Extent) : e.cells.Pairwise fun a b => a.index < b.index := by
  have hplace {row col : Nat} {c : Cell} (h : Cell.ofNat? row col = some c) :
      c.row = row ∧ c.col = col := by
    obtain ⟨_, heq⟩ := Option.dite_none_right_eq_some.mp h
    obtain rfl := Option.some.inj heq
    exact ⟨rfl, rfl⟩
  have hlt (first count : Nat) : (List.range' first count).Pairwise (· < ·) :=
    List.pairwise_lt_range'
  refine List.pairwise_flatMap.mpr
    ⟨fun row _ => (hlt _ _).filterMap _ fun col col' hcol c hc c' hc' => ?_,
      (hlt _ _).imp fun {row row'} hrow c hc c' hc' => ?_⟩
  · have hat := hplace hc
    have hat' := hplace hc'
    unfold Cell.index
    omega
  · obtain ⟨col, -, hcell⟩ := List.mem_filterMap.mp hc
    obtain ⟨col', -, hcell'⟩ := List.mem_filterMap.mp hc'
    have hat := hplace hcell
    have hat' := hplace hcell'
    have hlast := c.col_lt
    unfold Cell.index
    omega

end Extent

namespace StylePlan

/-- The ranges that are accepted of calls one after another. -/
def accepted : StylePlan → List Extent → List Extent
  | _, [] => []
  | p, e :: rest =>
    match p.addMerge? e with
    | none => p.accepted rest
    | some p' => e :: p'.accepted rest

/-- Whether all merged ranges of a plan have cells and no two of them share one. -/
structure HasDisjointMerges (p : StylePlan) : Prop where
  rectangles : ∀ m ∈ p.merges, m.IsRectangle
  disjoint : p.merges.Pairwise fun m m' => ¬ m.SharesCell m'

variable {p : StylePlan} {e m m' : Extent} {c : Cell} {calls : List Extent}

/-- A range that is rejected leaves the plan as it is. -/
theorem addMerge_eq_self (h : p.addMerge? e = none) : p.addMerge e = p := by
  rw [addMerge, h, Option.getD_none]

/-- After some calls the plan has the accepted ranges behind those it had, and nothing else is
changed. -/
theorem foldl_addMerge_eq (p : StylePlan) (calls : List Extent) :
    calls.foldl addMerge p = { p with merges := p.merges ++ p.accepted calls } := by
  induction calls generalizing p with
  | nil => simp [accepted]
  | cons e rest ih =>
    rw [List.foldl_cons, accepted, ih]
    cases hadd : p.addMerge? e with
    | none => rw [addMerge_eq_self hadd]
    | some p' =>
      rw [addMerge, hadd, Option.getD_some, eq_of_addMerge? hadd]
      simp

/-- A cell lies in none of the ranges exactly if the search for one fails. -/
theorem mergeAt?_eq_none_iff : p.mergeAt? c = none ↔ ∀ m ∈ p.merges, c ∉ m.cells := by
  simp [mergeAt?, List.find?_eq_none, Extent.mem_cells]

/-- A range that is found contains the cell. -/
theorem of_mergeAt?_eq_some (h : p.mergeAt? c = some m) : m ∈ p.merges ∧ c ∈ m.cells := by
  unfold mergeAt? at h
  have hcontains := List.find?_some h
  exact ⟨List.mem_of_find?_eq_some h, Extent.mem_cells.mpr hcontains⟩

namespace HasDisjointMerges

/-- A plan without ranges has no two that share a cell. -/
theorem of_merges_eq_nil (h : p.merges = []) : p.HasDisjointMerges where
  rectangles := by simp [h]
  disjoint := by simp [h]

/-- A range is rejected exactly if it shares a cell with a range of the plan. -/
theorem addMerge?_eq_none_iff (h : p.HasDisjointMerges) (he : e.IsRectangle) :
    p.addMerge? e = none ↔ ∃ m ∈ p.merges, m.SharesCell e := by
  have hany : p.merges.any (·.overlaps e) = true ↔ ∃ m ∈ p.merges, m.SharesCell e := by
    rw [List.any_eq_true]
    exact exists_congr fun m => and_congr_right fun hm =>
      Extent.overlaps_iff_sharesCell (h.rectangles m hm) he
  rw [← hany, addMerge?]
  by_cases hoverlaps : p.merges.any (·.overlaps e) = true
  · simp [hoverlaps]
  · simp [hoverlaps]

/-- One call keeps the ranges disjoint. -/
theorem addMerge (h : p.HasDisjointMerges) (he : e.IsRectangle) :
    (p.addMerge e).HasDisjointMerges := by
  cases hadd : p.addMerge? e with
  | none => rwa [addMerge_eq_self hadd]
  | some p' =>
    have hclear : ∀ m ∈ p.merges, ¬ m.SharesCell e := by
      intro m hm hshares
      have hnone := (h.addMerge?_eq_none_iff he).mpr ⟨m, hm, hshares⟩
      rw [hnone] at hadd
      contradiction
    rw [StylePlan.addMerge, hadd, Option.getD_some]
    constructor
    · rw [merges_of_addMerge? hadd]
      exact List.forall_mem_append.mpr ⟨h.rectangles, List.forall_mem_singleton.mpr he⟩
    · rw [merges_of_addMerge? hadd, List.pairwise_append]
      exact ⟨h.disjoint, List.pairwise_singleton _ _, fun m hm m' hm' =>
        List.mem_singleton.mp hm' ▸ hclear m hm⟩

/-- Any calls keep the ranges disjoint. -/
theorem foldl_addMerge (h : p.HasDisjointMerges) (hcalls : ∀ e ∈ calls, e.IsRectangle) :
    (calls.foldl StylePlan.addMerge p).HasDisjointMerges := by
  induction calls generalizing p with
  | nil => exact h
  | cons e rest ih =>
    obtain ⟨he, hrest⟩ := List.forall_mem_cons.mp hcalls
    exact ih (h.addMerge he) hrest

/-- Ranges of a plan that contain the same cell are one and the same. -/
theorem eq_of_mem_cells (h : p.HasDisjointMerges) (hm : m ∈ p.merges) (hm' : m' ∈ p.merges)
    (hc : c ∈ m.cells) (hc' : c ∈ m'.cells) : m = m' := by
  by_contra hne
  exact h.disjoint.forall hm hm' hne ⟨c, hc, hc'⟩

/-- The search for the range that contains a cell finds it. -/
theorem mergeAt?_eq_some_iff (h : p.HasDisjointMerges) :
    p.mergeAt? c = some m ↔ m ∈ p.merges ∧ c ∈ m.cells := by
  refine ⟨of_mergeAt?_eq_some, fun hboth => ?_⟩
  obtain ⟨hm, hc⟩ := hboth
  cases hfind : p.mergeAt? c with
  | none => exact absurd hc (mergeAt?_eq_none_iff.mp hfind m hm)
  | some m' =>
    obtain ⟨hm', hc'⟩ := of_mergeAt?_eq_some hfind
    rw [h.eq_of_mem_cells hm' hm hc' hc]

/-- The ranges list every cell once. -/
theorem nodup_cells (h : p.HasDisjointMerges) : (p.merges.flatMap Extent.cells).Nodup := by
  refine List.nodup_flatMap.mpr
    ⟨fun m _ => Cell.nodup_of_pairwise_index m.pairwise_cells, h.disjoint.imp ?_⟩
  exact fun hnot c hc hc' => hnot ⟨c, hc, hc'⟩

end HasDisjointMerges

end StylePlan

end SheetReport
