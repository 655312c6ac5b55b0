import SheetReport.Proofs.Style.AcceptedMerges
import SheetReport.Proofs.Workbook.RoundTrip

/-!
# Each cell is written in one pass

A report is written in two passes: cells of their own first, then the merged ranges with all of
their cells. The first pass goes over the cells that have a value, a style or a template format, and
passes over those in a merged range. Since accepted ranges are disjoint, no cell is written by both
passes or by one of them twice. Nothing is said of cells without value, style and format outside of
all ranges; neither pass comes to them.

Main statement: `accepted_merges_share_no_cell`.
-/

namespace SheetReport

namespace OrderedMap

variable {κ ν : Type} [Ord κ] [Std.TransOrd κ] [Std.LawfulEqOrd κ]

omit [Std.TransOrd κ] in
/-- Every key of a map has a value. -/
theorem exists_get?_of_mem_keys {m : OrderedMap κ ν} {k : κ} (h : k ∈ m.keys) :
    ∃ v, m.get? k = some v := by
  obtain ⟨e, he, rfl⟩ := List.mem_map.mp h
  exact ⟨e.2, get?_eq_some_iff.mpr he⟩

omit [Std.TransOrd κ] in
/-- A map lists every key once. -/
theorem nodup_keys (m : OrderedMap κ ν) : m.keys.Nodup := by
  refine List.pairwise_map.mpr (m.sorted.imp fun hlt heq => ?_)
  rw [heq, Std.ReflOrd.compare_self] at hlt
  contradiction

/-- The keys of the map of a list are those of its entries. -/
theorem mem_keys_ofList_iff {l : List (κ × ν)} {k : κ} :
    k ∈ (ofList l).keys ↔ ∃ v, (k, v) ∈ l := by
  constructor
  · intro h
    obtain ⟨v, hv⟩ := exists_get?_of_mem_keys h
    rw [← List.reverse_reverse l, get?_ofList_reverse] at hv
    exact ⟨v, List.mem_reverse.mp (mem_of_lookup hv)⟩
  · rintro ⟨v, hv⟩
    exact mem_keys_ofList_of_mem hv

end OrderedMap

namespace StoredSheet

/-- Whether a cell has a value, a style or a template format. -/
def IsPlanned (g : Grid) (p : StylePlan) (c : Cell) : Prop :=
  g.get c ≠ .empty ∨ c ∈ p.styles.keys ∨ c ∈ p.base.keys

/-- The cells of the merged ranges, range by range. -/
def mergedCells (p : StylePlan) : List Cell := p.merges.flatMap Extent.cells

variable {g : Grid} {p : StylePlan} {c : Cell} {name : String} {isPicture : String → Bool}
  {sheet : StoredSheet}

/-- The occupied cells are those with a value. -/
theorem mem_fst_entries_iff : c ∈ g.entries.map Prod.fst ↔ g.get c ≠ .empty := by
  constructor
  · intro h
    obtain ⟨⟨c', v⟩, he, rfl⟩ := List.mem_map.mp h
    obtain ⟨hget, hv⟩ := Grid.mem_entries.mp he
    rwa [hget]
  · intro h
    exact List.mem_map_of_mem (Grid.mem_entries.mpr ⟨rfl, h⟩)

/-- The first pass writes what is planned outside of merged ranges. -/
theorem mem_singleCells_iff :
    c ∈ singleCells g p ↔ IsPlanned g p c ∧ p.mergeAt? c = none := by
  rw [singleCells, List.mem_filter, OrderedMap.mem_keys_ofList_iff, Option.isNone_iff_eq_none]
  refine and_congr_left fun _ => ?_
  simp only [List.mem_map, Prod.mk.injEq, and_true, exists_const, exists_eq_right]
  rw [List.mem_append, List.mem_append, mem_fst_entries_iff, IsPlanned, or_comm,
    or_comm (a := c ∈ p.styles.keys)]

/-- The first pass comes to no cell twice. -/
theorem nodup_singleCells (g : Grid) (p : StylePlan) : (singleCells g p).Nodup :=
  (OrderedMap.nodup_keys _).filter _

/-- The second pass writes all cells of merged ranges. -/
theorem mem_mergedCells_iff : c ∈ mergedCells p ↔ p.mergeAt? c ≠ none := by
  rw [ne_eq, StylePlan.mergeAt?_eq_none_iff, mergedCells, List.mem_flatMap]
  simp

/-- A merged range is written to its cells. -/
theorem fst_of_merged? {m : Extent} {cells : List (Cell × StoredCell)}
    (h : merged? g p m = some cells) : cells.map Prod.fst = m.cells := by
  obtain ⟨first, -, rfl⟩ := Option.map_eq_some_iff.mp h
  rw [List.map_map]
  exact List.map_id' _

/-- With disjoint ranges no cell is written twice. -/
theorem nodup_singleCells_append_mergedCells (h : p.HasDisjointMerges) :
    (singleCells g p ++ mergedCells p).Nodup := by
  refine (nodup_singleCells g p).append h.nodup_cells fun c hsingle hmerged => ?_
  exact mem_mergedCells_iff.mp hmerged (mem_singleCells_iff.mp hsingle).2

/-- What is stored are the results of both passes, and each pass writes its own cells. -/
theorem exists_passes_of_ofReport? (h : ofReport? name g p isPicture = some sheet) :
    ∃ singles merged : List (Cell × StoredCell), singles.map Prod.fst = singleCells g p ∧
      merged.map Prod.fst = mergedCells p ∧ sheet.cells = storedCells (singles ++ merged) := by
  obtain ⟨singles, merged, hsingles, hmerged, -, hcells⟩ := exists_of_ofReport? h
  refine ⟨singles, merged.flatten, ?_, ?_, hcells⟩
  · have hfst := map_eq_of_mapM_eq_some (p := Prod.fst) (q := id)
      (fun c ⟨c', stored⟩ he => (content_of_single? he).1) hsingles
    rwa [List.map_id] at hfst
  · have hfst := map_eq_of_mapM_eq_some (p := List.map Prod.fst) (q := Extent.cells)
      (fun m cells hm => fst_of_merged? hm) hmerged
    rw [List.map_flatten, hfst, mergedCells, List.flatMap_def]

end StoredSheet

namespace StylePlan

open StoredSheet (IsPlanned singleCells mergedCells)

/-- After calls with any rectangles, a plan has exactly the accepted ones. The next call is rejected
if and only if its rectangle shares a cell with an accepted one, and then the plan stays as it is.
No two accepted ranges share a cell, so the range at a cell is the one that has it. When a report is
stored, each cell with a value, a style or a format and each cell of a range is written by one of
the two passes, once. -/
theorem accepted_merges_share_no_cell {p : StylePlan} {calls : List Extent}
    (hstart : p.merges = []) (hcalls : ∀ e ∈ calls, e.IsRectangle) :
    let q := calls.foldl addMerge p
    q = { p with merges := p.accepted calls } ∧
    (∀ e : Extent, e.IsRectangle →
      (q.addMerge? e = none ↔ ∃ m ∈ p.accepted calls, m.SharesCell e) ∧
      (q.addMerge? e = none → q.addMerge e = q)) ∧
    q.merges.Pairwise (fun m m' => ¬ m.SharesCell m') ∧
    (∀ c m, q.mergeAt? c = some m ↔ m ∈ q.merges ∧ c ∈ m.cells) ∧
    (∀ c, q.mergeAt? c = none ↔ ∀ m ∈ q.merges, c ∉ m.cells) ∧
    ∀ g : Grid,
      (∀ c, (c ∈ singleCells g q ↔ IsPlanned g q c ∧ q.mergeAt? c = none) ∧
        (c ∈ mergedCells q ↔ q.mergeAt? c ≠ none)) ∧
      (singleCells g q ++ mergedCells q).Nodup ∧
      ∀ name isPicture sheet, StoredSheet.ofReport? name g q isPicture = some sheet →
        ∃ singles merged : List (Cell × StoredCell), singles.map Prod.fst = singleCells g q ∧
          merged.map Prod.fst = mergedCells q ∧
          sheet.cells = StoredSheet.storedCells (singles ++ merged) := by
  intro q
  have hq : q = { p with merges := p.accepted calls } := by
    change calls.foldl addMerge p = _
    rw [foldl_addMerge_eq, hstart, List.nil_append]
  have hmerges : q.merges = p.accepted calls := by rw [hq]
  have hdisjoint : q.HasDisjointMerges :=
    (HasDisjointMerges.of_merges_eq_nil hstart).foldl_addMerge hcalls
  refine ⟨hq, fun e he => ⟨?_, addMerge_eq_self⟩, hdisjoint.disjoint,
    fun c m => hdisjoint.mergeAt?_eq_some_iff, fun c => mergeAt?_eq_none_iff, fun g => ⟨?_, ?_, ?_⟩⟩
  · rw [hdisjoint.addMerge?_eq_none_iff he, hmerges]
  · exact fun c => ⟨StoredSheet.mem_singleCells_iff, StoredSheet.mem_mergedCells_iff⟩
  · exact StoredSheet.nodup_singleCells_append_mergedCells hdisjoint
  · exact fun name isPicture sheet => StoredSheet.exists_passes_of_ofReport?

open MergedPair (cell)

namespace CrossingRanges

/-- The range between two rows and two columns. -/
def range (top left bottom right : Nat) : Extent := ⟨cell top left, cell bottom right⟩

/-- Two rows of three cells, a column across them, a cell of them, a column that touches them, and a
row below all. -/
def calls : List Extent :=
  [range 0 0 1 2, range 1 1 3 1, range 0 1 0 1, range 0 3 1 3, range 2 0 2 3]

/-- A bold cell in the first rows and one outside of all ranges. -/
def plan : StylePlan :=
  { styles := .ofList [(cell 1 1, { bold := true }), (cell 5 0, { bold := true })] }

end CrossingRanges

open CrossingRanges (range calls plan)

/-- Of the crossing ranges the first one, the column that touches it and the row below are accepted;
the column across them is rejected again. The bold cell in a range is left to the second pass. -/
theorem crossingRanges_accepted_merges_share_no_cell :
    plan.merges = [] ∧ (∀ e ∈ calls, e.IsRectangle) ∧
      (calls.foldl addMerge plan).merges = [range 0 0 1 2, range 0 3 1 3, range 2 0 2 3] ∧
      (range 1 1 3 1).IsRectangle ∧
      (calls.foldl addMerge plan).addMerge? (range 1 1 3 1) = none ∧
      (calls.foldl addMerge plan).mergeAt? (cell 1 1) = some (range 0 0 1 2) ∧
      (calls.foldl addMerge plan).mergeAt? (cell 3 1) = none ∧
      cell 1 1 ∈ mergedCells (calls.foldl addMerge plan) ∧
      ∃ sheet singles merged,
        StoredSheet.ofReport? "Report" .empty (calls.foldl addMerge plan) (fun _ => false) =
          some sheet ∧
        singles.map Prod.fst = [cell 5 0] ∧
        sheet.cells = StoredSheet.storedCells (singles ++ merged) := by
  have hstart : plan.merges = [] := rfl
  have hcalls : ∀ e ∈ calls, e.IsRectangle := by decide
  have hcross : (range 1 1 3 1).IsRectangle := by decide
  have haccepted : plan.accepted calls = [range 0 0 1 2, range 0 3 1 3, range 2 0 2 3] := by decide
  have hstored : (StoredSheet.ofReport? "Report" .empty (calls.foldl addMerge plan)
      fun _ => false).isSome = true := by decide +kernel
  obtain ⟨sheet, hsheet⟩ := Option.isSome_iff_exists.mp hstored
  obtain ⟨hplan, hnext, -, hat, hnowhere, hpasses⟩ := accepted_merges_share_no_cell hstart hcalls
  obtain ⟨hwritten, -, hresults⟩ := hpasses .empty
  have hmerges : (calls.foldl addMerge plan).merges =
      [range 0 0 1 2, range 0 3 1 3, range 2 0 2 3] := by rw [hplan, haccepted]
  have hfound : (calls.foldl addMerge plan).mergeAt? (cell 1 1) = some (range 0 0 1 2) := by
    rw [hat, hmerges]
    decide
  obtain ⟨singles, merged, hsingles, -, hcells⟩ := hresults _ _ _ hsheet
  refine ⟨hstart, hcalls, hmerges, hcross, ?_, hfound, ?_, ?_,
    sheet, singles, merged, hsheet, ?_, hcells⟩
  · rw [(hnext _ hcross).1, haccepted]
    decide
  · rw [hnowhere, hmerges]
    decide
  · rw [(hwritten _).2, hfound]
    exact Option.some_ne_none _
  · rw [hsingles]
    decide +kernel

end StylePlan

end SheetReport
