import SheetReport.Proofs.Report.Success

/-!
# Ambiguous cells are found exactly

The search for an ambiguous cell compares each subtotal with the next one below it in its grid
column, whatever their sizes are. The subtotals of a column are sorted by their own rows, which is
where they stop reaching. So if a subtotal reaches up to one further above, it reaches up to all
that stand between the two, and the search stops at a pair of neighbours at the latest there. The
reach of a subtotal ends at the first row of the sheet, however large its size is.

Formulas are built after the search only. Whether one of them would leave the sheet therefore
decides nothing on a grid with an ambiguous cell.

Main statement: `Resolution.ambiguity_is_detected_exactly`.
-/

namespace SheetReport

/-- Whether a cell lies in the reach of the subtotal tag at another cell: in the same grid column,
from as many rows above the tag as its size says, or the first row of the sheet, to the tag. -/
def Grid.IsReachedFrom (g : Grid) (c tagged : Cell) : Prop :=
  ∃ size column, g.HoldsTag tagged (.subtotal size column) ∧
    c.col = tagged.col ∧ tagged.row - size ≤ c.row ∧ c.row ≤ tagged.row

namespace Subtotal

variable {l : List Subtotal} {a b : Subtotal} {error : ReportError}

/-- Two subtotals of a column clash where the lower one reaches the upper one. The cell that is
told is the first one that both of them reach. -/
theorem exists_of_clash? (h : clash? a b = some error) :
    a.cell.col = b.cell.col ∧ ∃ c : Cell, error = .ambiguousCell c a.cell b.cell ∧
      c.col = a.cell.col ∧ c.row = max a.top.row b.top.row ∧ b.top.row ≤ a.cell.row := by
  unfold clash? at h
  split at h
  · rename_i hboth
    obtain ⟨hcol, hreach⟩ := hboth
    refine ⟨hcol, _, (Option.some.inj h).symm, ?_, ?_, hreach⟩
    · split
      · exact hcol.symm
      · rfl
    · split
      · rename_i hle
        exact (Nat.max_eq_right hle).symm
      · rename_i hle
        exact (Nat.max_eq_left (Nat.le_of_not_le hle)).symm
  · contradiction

/-- The first clash of neighbours is the clash of two subtotals, one before the other. -/
theorem exists_of_firstClash? {R : Subtotal → Subtotal → Prop} (hsorted : l.Pairwise R)
    (h : firstClash? l = some error) : ∃ a ∈ l, ∃ b ∈ l, R a b ∧ clash? a b = some error := by
  induction l with
  | nil => simp [firstClash?] at h
  | cons a rest ih =>
    cases rest with
    | nil => simp [firstClash?] at h
    | cons b rest =>
      obtain ⟨habove, hrest⟩ := List.pairwise_cons.mp hsorted
      rw [firstClash?, Option.or_eq_some_iff] at h
      rcases h with hclash | ⟨-, hlater⟩
      · exact ⟨a, List.mem_cons_self, b, List.mem_cons_of_mem a List.mem_cons_self,
          habove b List.mem_cons_self, hclash⟩
      · obtain ⟨c, hc, d, hd, hcd, hclash⟩ := ih hrest hlater
        exact ⟨c, List.mem_cons_of_mem a hc, d, List.mem_cons_of_mem a hd, hcd, hclash⟩

/-- The ambiguous cell of a list of subtotals lies in the reach of two of them, which are told from
top to bottom. -/
theorem exists_of_ambiguity? (hrows : l.Pairwise fun a b => a.cell.index < b.cell.index)
    (h : ambiguity? l = some error) :
    ∃ c, ∃ a ∈ l, ∃ b ∈ l, error = .ambiguousCell c a.cell b.cell ∧
      a.cell.col = b.cell.col ∧ a.cell.row < b.cell.row ∧
      a.reaches c = true ∧ b.reaches c = true := by
  obtain ⟨a, ha, b, hb, hbefore, hclash⟩ :=
    exists_of_firstClash? (pairwise_mergeSort_columnLe hrows) h
  rw [List.mem_mergeSort] at ha hb
  obtain ⟨hcol, c, rfl, hccol, hcrow, hreach⟩ := exists_of_clash? hclash
  have hrow : a.cell.row < b.cell.row := by
    unfold ColumnLt at hbefore
    omega
  simp only [top] at hcrow hreach
  refine ⟨c, a, ha, b, hb, rfl, hcol, hrow, reaches_iff.mpr ?_, reaches_iff.mpr ?_⟩
  · omega
  · omega

/-- Subtotals are clear of each other exactly when no cell lies in the reach of two. -/
theorem clear_iff : Clear l ↔ ∀ a ∈ l, ∀ b ∈ l, ∀ c,
    a.reaches c = true → b.reaches c = true → a.cell = b.cell := by
  constructor
  · intro h a ha b hb c hac hbc
    rw [reaches_iff] at hac hbc
    have hcol : a.cell.col = b.cell.col := hac.1.symm.trans hbc.1
    have hab := h a ha b hb hcol
    have hba := h b hb a ha hcol.symm
    simp only [top] at hab hba
    refine Cell.ext ?_ hcol
    omega
  · intro h a ha b hb hcol hrow
    -- otherwise both subtotals reach the cell of the upper one
    by_contra hreach
    simp only [top, Nat.not_lt] at hreach
    have hself : a.reaches a.cell = true := reaches_iff.mpr ⟨rfl, Nat.sub_le _ _, Nat.le_refl _⟩
    have hupper : b.reaches a.cell = true := reaches_iff.mpr ⟨hcol, hreach, Nat.le_of_lt hrow⟩
    have hcell := h a ha b hb a.cell hself hupper
    rw [hcell] at hrow
    exact absurd hrow (Nat.lt_irrefl _)

end Subtotal

namespace Resolution

variable {g : Grid} {tags : List (Cell × Tag)} {extent : Extent} {kinds : ColumnKinds}
  {error : ReportError}

/-- The formula of a sum fails only where it leaves the sheet. -/
theorem eq_outOfBounds_of_sumFormula {s : Subtotal} (h : sumFormula s = .error error) :
    ∃ anchor down right, error = .outOfBounds anchor down right := by
  simp only [sumFormula, map_eq_error_iff, Subtotal.summed, bind_eq_error_iff, reduceCtorEq,
    and_false, exists_false, or_false] at h
  rcases h with h | ⟨_, -, h⟩
  · exact ⟨_, _, _, Cell.eq_outOfBounds_of_locate h⟩
  · exact ⟨_, _, _, Cell.eq_outOfBounds_of_locate h⟩

/-- A total cannot be replaced only where its formula leaves the sheet. -/
theorem eq_outOfBounds_of_plainTotal? {t : Total} (h : plainTotal? kinds t = .error error) :
    ∃ anchor down right, error = .outOfBounds anchor down right := by
  unfold plainTotal? at h
  cases hkind : t.kind <;> simp only [hkind, map_eq_error_iff, reduceCtorEq] at h
  exact eq_outOfBounds_of_ratioFormula h

/-- A subtotal cannot be replaced only where its formula leaves the sheet. -/
theorem eq_outOfBounds_of_subtotalValue? {s : Subtotal}
    (h : subtotalValue? kinds s = .error error) :
    ∃ anchor down right, error = .outOfBounds anchor down right := by
  unfold subtotalValue? at h
  cases hkind : s.kind <;> simp only [hkind, map_eq_error_iff, reduceCtorEq] at h
  · exact eq_outOfBounds_of_ratioFormula h
  · exact eq_outOfBounds_of_sumFormula h

/-- An ambiguous cell ends a resolution before any formula is built. -/
theorem resolve_of_ambiguity? (extent : Extent) (htags : g.tags = .ok tags)
    (h : Subtotal.ambiguity? (subtotalsOf kinds tags) = some error) :
    resolve g extent kinds = .error error := by
  rw [resolve, map_eq_error_iff, ofGrid, htags]
  simp only [bind, Except.bind, h]

/-- Tags that can be read are resolved, or a cell is ambiguous, or a formula leaves the sheet. -/
theorem resolve_eq_error_cases (htags : g.tags = .ok tags)
    (h : resolve g extent kinds = .error error) :
    Subtotal.ambiguity? (subtotalsOf kinds tags) = some error ∨
      (Subtotal.Clear (subtotalsOf kinds tags) ∧
        ∃ anchor down right, error = .outOfBounds anchor down right) := by
  cases hsearch : Subtotal.ambiguity? (subtotalsOf kinds tags) with
  | some found =>
    rw [resolve_of_ambiguity? extent htags hsearch] at h
    exact .inl (congrArg some (Except.error.inj h))
  | none =>
    have hclear := (Subtotal.ambiguity?_eq_none_iff
      (pairwise_subtotalsOf (Grid.pairwise_tags htags))).mp hsearch
    refine .inr ⟨hclear, ?_⟩
    rcases resolve_cases extent htags hsearch with ⟨out, hout⟩ | ⟨error', herror', hformula⟩
    · rw [hout] at h
      contradiction
    · obtain rfl : error' = error := Except.error.inj (herror'.symm.trans h)
      rcases hformula with ⟨t, -, ht⟩ | ⟨s, -, hs⟩
      · exact eq_outOfBounds_of_plainTotal? ht
      · exact eq_outOfBounds_of_subtotalValue? hs

/-- A cell is reached from a tag exactly when it is reached by the subtotal of that tag. -/
theorem isReachedFrom_iff (htags : g.tags = .ok tags) (kinds : ColumnKinds) {c tagged : Cell} :
    g.IsReachedFrom c tagged ↔
      ∃ s ∈ subtotalsOf kinds tags, s.cell = tagged ∧ s.reaches c = true := by
  simp only [mem_subtotalsOf_iff, Grid.mem_tags_iff htags, Subtotal.reaches_iff,
    Grid.IsReachedFrom]
  constructor
  · rintro ⟨size, column, hholds, hreach⟩
    exact ⟨⟨tagged, size, column, kinds.classify column⟩, ⟨hholds, rfl⟩, rfl, hreach⟩
  · rintro ⟨s, ⟨hholds, -⟩, rfl, hreach⟩
    exact ⟨s.size, s.column, hholds, hreach⟩

/-- The subtotals of a grid are clear of each other exactly when no cell is reached from two
tags. -/
theorem clear_subtotalsOf_iff (htags : g.tags = .ok tags) :
    Subtotal.Clear (subtotalsOf kinds tags) ↔
      ∀ a b c, g.IsReachedFrom c a → g.IsReachedFrom c b → a = b := by
  simp only [Subtotal.clear_iff, isReachedFrom_iff htags kinds]
  constructor
  · rintro h _ _ c ⟨a, ha, rfl, hac⟩ ⟨b, hb, rfl, hbc⟩
    exact h a ha b hb c hac hbc
  · intro h a ha b hb c hac hbc
    exact h a.cell b.cell c ⟨a, ha, rfl, hac⟩ ⟨b, hb, rfl, hbc⟩

/-- On a grid whose tags can be read, resolving reports an ambiguous cell exactly when a cell is
reached from two subtotal tags. It reports such a cell together with two such tags of its column,
the upper one first, and it reports a formula that leaves the sheet only where no cell is
ambiguous. -/
theorem ambiguity_is_detected_exactly (htags : g.tags = .ok tags) (extent : Extent)
    (kinds : ColumnKinds) :
    ((∃ c first second, resolve g extent kinds = .error (.ambiguousCell c first second)) ↔
      ∃ a b, a ≠ b ∧ ∃ c, g.IsReachedFrom c a ∧ g.IsReachedFrom c b) ∧
    (∀ c first second, resolve g extent kinds = .error (.ambiguousCell c first second) →
      first.col = second.col ∧ first.row < second.row ∧
        g.IsReachedFrom c first ∧ g.IsReachedFrom c second) ∧
    (∀ anchor rows cols, resolve g extent kinds = .error (.outOfBounds anchor rows cols) →
      ∀ a b c, g.IsReachedFrom c a → g.IsReachedFrom c b → a = b) := by
  have hrows : (subtotalsOf kinds tags).Pairwise fun a b => a.cell.index < b.cell.index :=
    pairwise_subtotalsOf (Grid.pairwise_tags htags)
  have htold (c first second : Cell)
      (h : resolve g extent kinds = .error (.ambiguousCell c first second)) :
      first.col = second.col ∧ first.row < second.row ∧
        g.IsReachedFrom c first ∧ g.IsReachedFrom c second := by
    rcases resolve_eq_error_cases htags h with hsearch | ⟨-, anchor, down, right, heq⟩
    · obtain ⟨c', a, ha, b, hb, heq, hcol, hrow, hac, hbc⟩ :=
        Subtotal.exists_of_ambiguity? hrows hsearch
      obtain ⟨rfl, rfl, rfl⟩ := ReportError.ambiguousCell.inj heq
      simp only [isReachedFrom_iff htags kinds]
      exact ⟨hcol, hrow, ⟨a, ha, rfl, hac⟩, ⟨b, hb, rfl, hbc⟩⟩
    · contradiction
  refine ⟨⟨?_, ?_⟩, htold, ?_⟩
  · rintro ⟨c, first, second, h⟩
    obtain ⟨-, hrow, hfirst, hsecond⟩ := htold c first second h
    refine ⟨first, second, fun heq => ?_, c, hfirst, hsecond⟩
    rw [heq] at hrow
    exact absurd hrow (Nat.lt_irrefl _)
  · rintro ⟨a, b, hne, c, hac, hbc⟩
    cases hsearch : Subtotal.ambiguity? (subtotalsOf kinds tags) with
    | some error =>
      obtain ⟨c', s, -, s', -, rfl, -⟩ := Subtotal.exists_of_ambiguity? hrows hsearch
      exact ⟨c', s.cell, s'.cell, resolve_of_ambiguity? extent htags hsearch⟩
    | none =>
      have hclear := (Subtotal.ambiguity?_eq_none_iff hrows).mp hsearch
      exact absurd ((clear_subtotalsOf_iff htags).mp hclear a b c hac hbc) hne
  · intro anchor rows cols h
    rcases resolve_eq_error_cases htags h with hsearch | ⟨hclear, -⟩
    · obtain ⟨c', s, -, s', -, heq, -⟩ := Subtotal.exists_of_ambiguity? hrows hsearch
      contradiction
    · exact (clear_subtotalsOf_iff htags).mp hclear

/-- The lowest of three subtotals reaches above the first row of the sheet and both other ones. A
ratio in the first column, which cannot be built, is not reported. -/
theorem ambiguity_is_detected_beside_ratio :
    let cell := SmallReport.cell
    let g : Grid := .ofList [(cell 2 1, .text "<subtotal_1_Notes>"),
      (cell 4 1, .text "<subtotal_1_Ad server clicks>"),
      (cell 6 1, .text "<subtotal_9_Ad server clicks>"),
      (cell 7 0, .text "<total_Ad server CTR>")]
    let extent : Extent := ⟨cell 0 0, cell 8 1⟩
    g.tags = .ok [(cell 2 1, .subtotal 1 "Notes"), (cell 4 1, .subtotal 1 "Ad server clicks"),
        (cell 6 1, .subtotal 9 "Ad server clicks"), (cell 7 0, .total "Ad server CTR")] ∧
      plainTotal? {} ⟨cell 7 0, "Ad server CTR", .ratio⟩ =
        .error (.outOfBounds (cell 7 0) 0 (-1)) ∧
      ∃ c first second, resolve g extent {} = .error (.ambiguousCell c first second) ∧
        first.col = second.col ∧ first.row < second.row ∧
        g.IsReachedFrom c first ∧ g.IsReachedFrom c second := by
  intro cell g extent
  have htags : g.tags = .ok [(cell 2 1, .subtotal 1 "Notes"),
      (cell 4 1, .subtotal 1 "Ad server clicks"), (cell 6 1, .subtotal 9 "Ad server clicks"),
      (cell 7 0, .total "Ad server CTR")] :=
    eq_ok_of_toOption (by decide +kernel)
  obtain ⟨hiff, htold, -⟩ := ambiguity_is_detected_exactly htags extent {}
  have hupper : g.IsReachedFrom (cell 1 1) (cell 2 1) :=
    ⟨1, "Notes", (Grid.mem_tags_iff htags).mp (by simp), rfl, by decide, by decide⟩
  have hlower : g.IsReachedFrom (cell 1 1) (cell 6 1) :=
    ⟨9, "Ad server clicks", (Grid.mem_tags_iff htags).mp (by simp), rfl, by decide, by decide⟩
  obtain ⟨c, first, second, hresolve⟩ :=
    hiff.mpr ⟨cell 2 1, cell 6 1, by decide, cell 1 1, hupper, hlower⟩
  exact ⟨htags, rfl, c, first, second, hresolve, htold c first second hresolve⟩

end Resolution

end SheetReport
