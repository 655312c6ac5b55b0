import SheetReport.Proofs.Report.AggregateTags

/-!
# What resolving reads of a grid

Resolving looks for aggregates among the texts of a grid and for occupied cells. So it does not
see which text a cell holds, as long as the text is neither read as an aggregate nor rejected as
one: with all such texts replaced by one, the resolution is the same.

Main statement: `Resolution.ofGrid_masked`.
-/

namespace SheetReport

namespace Value

/-- A value whose text is hidden unless it resembles an aggregate. -/
def masked : Value → Value
  | .text s => if (text s).resemblesAggregate then .text s else .text ""
  | v => v

/-- A masked text. -/
theorem masked_text (s : String) :
    (text s).masked = if (text s).resemblesAggregate then .text s else .text "" := rfl

/-- A text that resembles no aggregate is hidden. -/
theorem masked_of_not_resemblesAggregate {s : String}
    (h : (text s).resemblesAggregate = false) : (text s).masked = .text "" := by
  rw [masked_text, h]
  rfl

/-- Masking hides texts only, so it neither empties a value nor fills one. -/
@[simp] theorem masked_eq_empty_iff {v : Value} : v.masked = .empty ↔ v = .empty := by
  cases v with
  | text s =>
    rw [masked_text]
    split <;> simp
  | _ => rfl

/-- Masking neither empties a value nor fills one. -/
@[simp] theorem isEmpty_masked (v : Value) : v.masked.isEmpty = v.isEmpty := by
  cases v with
  | text s =>
    rw [masked_text]
    split <;> rfl
  | _ => rfl

/-- There is nothing to hide in a masked value. -/
@[simp] theorem masked_masked (v : Value) : v.masked.masked = v.masked := by
  have hnone : (text "").resemblesAggregate = false := by decide
  cases v with
  | text s =>
    rw [masked_text]
    split
    · rename_i hresembles
      rw [masked_text, if_pos hresembles]
    · exact masked_of_not_resemblesAggregate hnone
  | _ => rfl

end Value

namespace Grid

/-- The entries of a grid with their texts hidden. -/
def maskedEntries (entries : List (Cell × Value)) : List (Cell × Value) :=
  entries.map fun e => (e.1, e.2.masked)

/-- A grid with its texts hidden. -/
def masked (g : Grid) : Grid where
  cells := ⟨maskedEntries g.entries, by
    rw [maskedEntries, List.pairwise_map]
    exact g.cells.sorted⟩
  occupied := by
    intro e he
    obtain ⟨e', he', rfl⟩ := List.mem_map.mp he
    exact fun hempty => g.occupied e' he' (Value.masked_eq_empty_iff.mp hempty)

/-- The listed entries are those of the grid with their texts hidden. -/
theorem entries_masked (g : Grid) : g.masked.entries = maskedEntries g.entries := rfl

/-- Masking leaves the cells of a listing as they are. -/
theorem map_fst_maskedEntries (entries : List (Cell × Value)) :
    (maskedEntries entries).map Prod.fst = entries.map Prod.fst := by
  rw [maskedEntries, List.map_map]
  rfl

/-- A cell of a masked grid holds its masked value. -/
theorem get_masked (g : Grid) (c : Cell) : g.masked.get c = (g.get c).masked := by
  by_cases hempty : g.get c = .empty
  · rw [hempty]
    refine Classical.byContradiction fun hne => ?_
    have hmem : (c, g.masked.get c) ∈ g.masked.entries := mem_entries.mpr ⟨rfl, hne⟩
    obtain ⟨e, he, heq⟩ := List.mem_map.mp hmem
    obtain ⟨hget, hoccupied⟩ := mem_entries.mp he
    rw [(Prod.mk.inj heq).1, hempty] at hget
    exact hoccupied hget.symm
  · have hmem : (c, g.get c) ∈ g.entries := mem_entries.mpr ⟨rfl, hempty⟩
    have hmasked : (c, (g.get c).masked) ∈ g.masked.entries :=
      List.mem_map_of_mem (f := fun e : Cell × Value => (e.1, e.2.masked)) hmem
    exact (mem_entries.mp hmasked).1

/-- Grids that differ in hidden texts only are the same when masked. -/
theorem masked_eq {g g' : Grid} (h : ∀ c, (g.get c).masked = (g'.get c).masked) :
    g.masked = g'.masked := by
  refine ext fun c => ?_
  rw [get_masked, get_masked, h]

/-- The tags of masked entries are the aggregates among the tags, and the same text is
rejected. -/
theorem tagsOf_maskedEntries (entries : List (Cell × Value)) :
    tagsOf (maskedEntries entries) = (tagsOf entries).map (List.filter (·.2.isAggregate)) := by
  induction entries with
  | nil => rfl
  | cons e rest ih =>
    obtain ⟨cell, value⟩ := e
    change tagsOf ((cell, value.masked) :: maskedEntries rest) = _
    cases value with
    | text s =>
      have hread : Tag.read "" = .ok none := rfl
      rw [Value.masked_text]
      cases hs : Tag.read s with
      | error error =>
        have hresembles : (Value.text s).resemblesAggregate = true := by
          simp [Value.resemblesAggregate, Value.isRejected, Tag.isRejected, hs]
        rw [if_pos hresembles]
        simp only [tagsOf, Value.text?, hs, Except.map]
      | ok tag? =>
        cases tag? with
        | none =>
          have hplain : (Value.text s).resemblesAggregate = false := by
            simp [Value.resemblesAggregate, Value.isAggregate, Value.isRejected,
              Tag.readsAsAggregate, Tag.isRejected, hs]
          rw [hplain]
          simpa [tagsOf, Value.text?, hs, hread] using ih
        | some tag =>
          have hresembles : (Value.text s).resemblesAggregate = tag.isAggregate := by
            simp [Value.resemblesAggregate, Value.isAggregate, Value.isRejected,
              Tag.readsAsAggregate, Tag.isRejected, hs]
          rw [hresembles]
          cases haggregate : tag.isAggregate with
          | true =>
            simp only [if_true, tagsOf, Value.text?, hs, ih]
            cases tagsOf rest <;> simp [Except.map, haggregate]
          | false =>
            simp only [Bool.false_eq_true, if_false, tagsOf, Value.text?, hs, hread, ih]
            cases tagsOf rest <;> simp [Except.map, haggregate]
    | _ => exact ih

end Grid

namespace Resolution

/-- Subtotals are found among the aggregates. -/
theorem subtotalsOf_filter (kinds : ColumnKinds) (tags : List (Cell × Tag)) :
    subtotalsOf kinds (tags.filter (·.2.isAggregate)) = subtotalsOf kinds tags := by
  rw [subtotalsOf, subtotalsOf, List.filterMap_filter]
  congr 1
  funext e
  obtain ⟨c, tag⟩ := e
  cases tag <;> rfl

/-- Totals are found among the aggregates. -/
theorem totalsOf_filter (kinds : ColumnKinds) (tags : List (Cell × Tag)) :
    totalsOf kinds (tags.filter (·.2.isAggregate)) = totalsOf kinds tags := by
  rw [totalsOf, totalsOf, List.filterMap_filter]
  congr 1
  funext e
  obtain ⟨c, tag⟩ := e
  cases tag <;> rfl

/-- A total adds the same cells of a masked grid. -/
theorem countTotal?_masked (g : Grid) (extent : Extent) (subtotals : List Subtotal) :
    countTotal? g.masked extent subtotals = countTotal? g extent subtotals := by
  have huncovered (above : List Subtotal) (total : Cell) :
      uncovered g.masked extent above total = uncovered g extent above total := by
    rw [uncovered, Grid.entries_masked, Grid.map_fst_maskedEntries, uncovered]
  funext t
  simp only [countTotal?, totalTerms, huncovered]

/-- The resolution of a grid is that of the masked grid, errors included. -/
theorem ofGrid_masked (g : Grid) (extent : Extent) (kinds : ColumnKinds) :
    ofGrid g.masked extent kinds = ofGrid g extent kinds := by
  have htags : g.masked.tags = g.tags.map (List.filter (·.2.isAggregate)) :=
    Grid.tagsOf_maskedEntries g.entries
  unfold ofGrid
  rw [htags]
  cases g.tags with
  | error error => rfl
  | ok tags =>
    simp only [Except.map, bind, Except.bind, subtotalsOf_filter, totalsOf_filter,
      countTotal?_masked]

end Resolution

end SheetReport
