import SheetReport.Proofs.Report.Reach
import SheetReport.Proofs.Report.Success
import SheetReport.Proofs.Sheet.Naming

/-!
# Totals cover their column exactly, on any grid

The subtotals of a grid need not come from a report: they may have any size, lie anywhere and
reach above the rows of the report. What resolving demands is that none of them is ambiguous, and
this is enough: the size rows of a subtotal then hold no other subtotal of its column, and no
cell lies in the size rows of two. So the subtotals above a total, and the occupied cells that
none of them reaches, cover each occupied cell there once.

Main statement: `Resolution.count_total_covers_exactly`.
-/

namespace SheetReport

/-- The stretch above a total: the cells of its column from the first row of the report down to
above the total. -/
def Extent.IsAbove (e : Extent) (total c : Cell) : Prop :=
  c.col = total.col ∧ e.first.row ≤ c.row ∧ c.row < total.row

namespace Subtotal

/-- Whether a cell lies in the size rows of a subtotal, right above it. -/
def Sums (s : Subtotal) (c : Cell) : Prop :=
  c.col = s.cell.col ∧ s.top.row ≤ c.row ∧ c.row < s.cell.row

/-- A subtotal reaches its size rows and its own cell. -/
theorem reaches_iff_sums_or_eq {s : Subtotal} {c : Cell} :
    s.reaches c = true ↔ s.Sums c ∨ c = s.cell := by
  simp only [reaches_iff, Sums, top, Cell.ext_iff]
  omega

variable {l : List Subtotal} {a b : Subtotal} {c : Cell}

/-- No subtotal stands in the size rows of another. -/
theorem Clear.not_sums (h : Clear l) (ha : a ∈ l) (hb : b ∈ l) : ¬ b.Sums a.cell := by
  rintro ⟨hcol, htop, hrow⟩
  have hbelow := h a ha b hb hcol hrow
  omega

/-- Two subtotals that sum one cell stand in the same cell. -/
theorem Clear.cell_eq_of_sums (h : Clear l) (ha : a ∈ l) (hb : b ∈ l) (hac : a.Sums c)
    (hbc : b.Sums c) : a.cell = b.cell := by
  obtain ⟨hacol, hatop, harow⟩ := hac
  obtain ⟨hbcol, hbtop, hbrow⟩ := hbc
  have hcol : a.cell.col = b.cell.col := hacol.symm.trans hbcol
  have hab := h a ha b hb hcol
  have hba := h b hb a ha hcol.symm
  refine Cell.ext ?_ hcol
  omega

/-- Of a cell that a subtotal reaches, either a subtotal stands in it and none sums it, or none
stands in it and exactly one sums it. -/
theorem Clear.stands_or_sums_once (h : Clear l)
    (hcells : ∀ a ∈ l, ∀ b ∈ l, a.cell = b.cell → a = b) (hreach : ∃ s ∈ l, s.reaches c = true) :
    (c ∈ l.map (·.cell) ∧ ∀ s ∈ l, ¬ s.Sums c) ∨
      (c ∉ l.map (·.cell) ∧ ∃! s, s ∈ l ∧ s.Sums c) := by
  by_cases hstands : c ∈ l.map (·.cell)
  · obtain ⟨a, ha, rfl⟩ := List.mem_map.mp hstands
    exact .inl ⟨hstands, fun s hs => h.not_sums ha hs⟩
  · obtain ⟨s, hs, hreach⟩ := hreach
    rcases reaches_iff_sums_or_eq.mp hreach with hsums | rfl
    · refine .inr ⟨hstands, s, ⟨hs, hsums⟩, ?_⟩
      rintro s' ⟨hs', hsums'⟩
      exact hcells s' hs' s hs (h.cell_eq_of_sums hs' hs hsums' hsums)
    · exact absurd (List.mem_map_of_mem hs) hstands

end Subtotal

namespace Resolution

/-- Only the empty sum is zero. -/
theorem eq_zero_iff_of_showsAddition {g : Grid} {c : Cell} {terms : List Cell}
    (h : g.ShowsAddition c terms) : g.get c = .formula "=0" ↔ terms = [] := by
  constructor
  · intro hget
    cases terms with
    | nil => rfl
    | cons term rest =>
      obtain ⟨ch, name, hname, hletter⟩ := term.exists_toList_name
      have hformula := congrArg String.toList
        (Value.formula.inj ((h.sum (List.cons_ne_nil _ _)).symm.trans hget))
      rw [String.toList_append, String.toList_intercalate, List.map_cons, List.map_cons, hname,
        List.intercalate_cons_cons_left] at hformula
      have hzero : ch = '0' := by
        have hchars : '=' :: ch :: _ = ['=', '0'] := hformula
        exact (List.cons.inj (List.cons.inj hchars).2).1
      rw [hzero] at hletter
      contradiction
  · exact h.zero

/-- Subtotals and further cells cover the stretch above a total exactly: of each occupied cell,
either the cell itself is named and no named subtotal sums it, or it is not named and one of them
does. -/
structure CoversExactly (g : Grid) (extent : Extent) (subtotals : List Subtotal) (total : Cell)
    (named : List Subtotal) (others : List Cell) : Prop where
  mem_named_iff : ∀ s, s ∈ named ↔ s ∈ subtotals ∧ extent.IsAbove total s.cell
  pairwise_named : named.Pairwise fun a b => a.cell.row < b.cell.row
  others_ne_cell : ∀ c ∈ others, ∀ s ∈ subtotals, c ≠ s.cell
  nodup : (named.map (·.cell) ++ others).Nodup
  isAbove : ∀ c ∈ named.map (·.cell) ++ others, extent.IsAbove total c ∧ g.get c ≠ .empty
  once : ∀ c, extent.IsAbove total c → g.get c ≠ .empty →
    (c ∈ named.map (·.cell) ++ others ∧ ∀ s ∈ named, ¬ s.Sums c) ∨
      (c ∉ named.map (·.cell) ++ others ∧ ∃! s, s ∈ named ∧ s.Sums c)

variable {g g' : Grid} {extent : Extent} {kinds : ColumnKinds} {r : Resolution}

/-- The subtotals above a total are those in its stretch. -/
theorem mem_subtotalsAbove_iff {subtotals : List Subtotal} {total : Cell} {s : Subtotal} :
    s ∈ subtotalsAbove extent subtotals total ↔
      s ∈ subtotals ∧ extent.IsAbove total s.cell := by
  simp only [subtotalsAbove, List.mem_filter, Bool.and_eq_true, beq_iff_eq, decide_eq_true_eq,
    Extent.IsAbove, and_assoc]

/-- The other cells that a total adds are the occupied cells of its stretch that no subtotal
reaches. -/
theorem mem_uncovered_iff {above : List Subtotal} {total c : Cell} :
    c ∈ uncovered g extent above total ↔
      (extent.IsAbove total c ∧ g.get c ≠ .empty) ∧ ∀ s ∈ above, ¬ s.reaches c = true := by
  have hoccupied : c ∈ g.entries.map Prod.fst ↔ g.get c ≠ .empty := by simp [Grid.mem_entries]
  simp only [uncovered, List.mem_filter, hoccupied, Bool.and_eq_true, beq_iff_eq,
    decide_eq_true_eq, Bool.not_eq_true', List.any_eq_false, Extent.IsAbove, and_assoc]
  constructor
  · rintro ⟨hget, hcol, hfirst, habove, hfree⟩
    exact ⟨hcol, hfirst, habove, hget, hfree⟩
  · rintro ⟨hcol, hfirst, habove, hget, hfree⟩
    exact ⟨hget, hcol, hfirst, habove, hfree⟩

/-- A resolution that succeeds has subtotals that are clear of each other. -/
theorem clear_of_resolve (h : resolve g extent kinds = .ok (g', r)) :
    Subtotal.Clear r.subtotals := by
  have hrows := (resolve_eq_ok h).pairwise_subtotals
  rw [← Subtotal.ambiguity?_eq_none_iff hrows]
  obtain ⟨r', hr, heq⟩ := map_eq_ok_iff.mp h
  obtain ⟨-, rfl⟩ := Prod.mk.inj heq
  obtain ⟨tags, plain, sums, -, hclear, -, -, rfl⟩ := exists_of_ofGrid hr
  exact hclear

/-- No cell is occupied twice. -/
theorem nodup_uncovered (g : Grid) (extent : Extent) (above : List Subtotal) (total : Cell) :
    (uncovered g extent above total).Nodup := by
  have hcells : (g.entries.map Prod.fst).Pairwise fun a b => a.index < b.index := by
    rw [List.pairwise_map]
    exact g.pairwise_entries
  exact Cell.nodup_of_pairwise_index (hcells.filter _)

/-- The other cells that a total adds hold no subtotals. -/
theorem ne_cell_of_mem_uncovered {subtotals : List Subtotal} {total c : Cell} {s : Subtotal}
    (hc : c ∈ uncovered g extent (subtotalsAbove extent subtotals total) total)
    (hs : s ∈ subtotals) : c ≠ s.cell := by
  rintro rfl
  obtain ⟨⟨habove, -⟩, hfree⟩ := mem_uncovered_iff.mp hc
  exact hfree s (mem_subtotalsAbove_iff.mpr ⟨hs, habove⟩)
    (Subtotal.reaches_iff_sums_or_eq.mpr (.inr rfl))

/-- The subtotals above a total come from top to bottom. -/
theorem Resolved.pairwise_subtotalsAbove (h : Resolved g extent kinds g' r) (total : Cell) :
    (subtotalsAbove extent r.subtotals total).Pairwise fun a b => a.cell.row < b.cell.row := by
  refine (h.pairwise_subtotals.filter _).imp_of_mem fun {a b} ha hb hindex => ?_
  have hacol := (mem_subtotalsAbove_iff.mp ha).2.1
  have hbcol := (mem_subtotalsAbove_iff.mp hb).2.1
  unfold Cell.index at hindex
  omega

/-- An occupied cell above a total is either named and in the size rows of no subtotal above the
total, or not named and in those of exactly one. -/
theorem Resolved.covered_once (h : Resolved g extent kinds g' r)
    (hclear : Subtotal.Clear r.subtotals) {total c : Cell} (habove : extent.IsAbove total c)
    (hget : g.get c ≠ .empty) :
    (c ∈ totalTerms g extent r.subtotals total ∧
        ∀ s ∈ subtotalsAbove extent r.subtotals total, ¬ s.Sums c) ∨
      (c ∉ totalTerms g extent r.subtotals total ∧
        ∃! s, s ∈ subtotalsAbove extent r.subtotals total ∧ s.Sums c) := by
  have hmem {s : Subtotal} (hs : s ∈ subtotalsAbove extent r.subtotals total) :
      s ∈ r.subtotals := (mem_subtotalsAbove_iff.mp hs).1
  rw [totalTerms, List.mem_append]
  by_cases hreach : ∃ s ∈ subtotalsAbove extent r.subtotals total, s.reaches c = true
  · have hnot : c ∉ uncovered g extent (subtotalsAbove extent r.subtotals total) total := by
      obtain ⟨s, hs, hreach⟩ := hreach
      exact fun hc => (mem_uncovered_iff.mp hc).2 s hs hreach
    simp only [hnot, or_false]
    exact Subtotal.Clear.stands_or_sums_once
      (fun a ha b hb => hclear a (hmem ha) b (hmem hb))
      (fun a ha b hb => h.subtotal_unique (hmem ha) (hmem hb)) hreach
  · have hfree : ∀ s ∈ subtotalsAbove extent r.subtotals total, ¬ s.reaches c = true :=
      fun s hs hreaches => hreach ⟨s, hs, hreaches⟩
    refine .inl ⟨.inr (mem_uncovered_iff.mpr ⟨⟨habove, hget⟩, hfree⟩), fun s hs hsums => ?_⟩
    exact hfree s hs (Subtotal.reaches_iff_sums_or_eq.mpr (.inl hsums))

/-- What a total adds covers its stretch exactly, if the subtotals are clear of each other. -/
theorem Resolved.coversExactly (h : Resolved g extent kinds g' r)
    (hclear : Subtotal.Clear r.subtotals) (total : Cell) :
    CoversExactly g extent r.subtotals total (subtotalsAbove extent r.subtotals total)
      (uncovered g extent (subtotalsAbove extent r.subtotals total) total) where
  mem_named_iff _ := mem_subtotalsAbove_iff
  pairwise_named := h.pairwise_subtotalsAbove total
  others_ne_cell _ hc _ hs := ne_cell_of_mem_uncovered hc hs
  nodup := by
    refine List.nodup_append.mpr ⟨?_, nodup_uncovered g extent _ total, ?_⟩
    · rw [List.Nodup, List.pairwise_map]
      exact (h.pairwise_subtotalsAbove total).imp fun {a b} hlt heq => by simp [heq] at hlt
    · rintro c hc c' hc' rfl
      obtain ⟨s, hs, rfl⟩ := List.mem_map.mp hc
      exact ne_cell_of_mem_uncovered hc' (mem_subtotalsAbove_iff.mp hs).1 rfl
  isAbove c hc := by
    rcases List.mem_append.mp hc with hc | hc
    · obtain ⟨s, hs, rfl⟩ := List.mem_map.mp hc
      obtain ⟨hs, habove⟩ := mem_subtotalsAbove_iff.mp hs
      obtain ⟨text, htext, -⟩ := (h.mem_subtotals.mp hs).1
      exact ⟨habove, by simp [htext]⟩
    · exact (mem_uncovered_iff.mp hc).1
  once _ habove hget := h.covered_once hclear habove hget

/-- Nothing covers a stretch exactly when it is empty. -/
theorem CoversExactly.eq_nil_iff {subtotals named : List Subtotal} {total : Cell}
    {others : List Cell} (h : CoversExactly g extent subtotals total named others) :
    named.map (·.cell) ++ others = [] ↔ ∀ c, extent.IsAbove total c → g.get c = .empty := by
  constructor
  · intro hnil c habove
    by_contra hget
    rcases h.once c habove hget with ⟨hc, -⟩ | ⟨-, s, ⟨hs, -⟩, -⟩
    · simp [hnil] at hc
    · have hcell : s.cell ∈ named.map (·.cell) ++ others :=
        List.mem_append_left _ (List.mem_map_of_mem hs)
      simp [hnil] at hcell
  · intro hempty
    refine List.eq_nil_iff_forall_not_mem.mpr fun c hc => ?_
    obtain ⟨habove, hget⟩ := h.isAbove c hc
    exact hget (hempty c habove)

/-- On every grid that can be resolved, a counted total adds the subtotals of its stretch from
top to bottom, and then further cells, such that they cover each occupied cell of the stretch
exactly once; its formula names these cells and no others. It is zero exactly when the stretch is
empty. -/
theorem count_total_covers_exactly (h : resolve g extent kinds = .ok (g', r)) {t : Total}
    (ht : t ∈ r.totals) (hkind : t.kind = .count) :
    (∀ c size column, g.HoldsTag c (.subtotal size column) ↔
      ∃ s ∈ r.subtotals, s.cell = c ∧ s.size = size ∧ s.column = column) ∧
    (∃ named others, CoversExactly g extent r.subtotals t.cell named others ∧
      g'.ShowsAddition t.cell (named.map (·.cell) ++ others)) ∧
    (g'.get t.cell = .formula "=0" ↔ ∀ c, extent.IsAbove t.cell c → g.get c = .empty) := by
  have hr := resolve_eq_ok h
  have hcover := hr.coversExactly (clear_of_resolve h) t.cell
  have hadds := hr.showsAddition_of_total ht hkind
  refine ⟨fun c size column => ?_, ⟨_, _, hcover, hadds⟩, ?_⟩
  · constructor
    · intro htag
      exact ⟨⟨c, size, column, kinds.classify column⟩, hr.mem_subtotals.mpr ⟨htag, rfl⟩, rfl, rfl,
        rfl⟩
    · rintro ⟨s, hs, rfl, rfl, rfl⟩
      exact (hr.mem_subtotals.mp hs).1
  · exact (eq_zero_iff_of_showsAddition hadds).trans hcover.eq_nil_iff

namespace BelowSubtotal

/-- The cell of a name; the first one if it names none. -/
def cell (name : String) : Cell := (Cell.ofName? name).getD default

/-- A subtotal of another name, which reaches above the first row, and a single cell below it. -/
def grid : Grid :=
  .ofList [(cell "A1", .text "3"), (cell "A2", .text "5"), (cell "A3", .text "<subtotal_9_Notes>"),
    (cell "A4", .text "7"), (cell "A5", .text "<total_Ad server clicks>")]

/-- The rows of the report. -/
def range : Extent := ⟨cell "A2", cell "A5"⟩

/-- The tags of the grid. -/
def tags : List (Cell × Tag) :=
  [(cell "A3", .subtotal 9 "Notes"), (cell "A5", .total "Ad server clicks")]

/-- The tags are read. -/
theorem tags_eq : grid.tags = .ok tags := eq_ok_of_toOption (by decide +kernel)

/-- The subtotal is the only one. -/
theorem subtotalsOf_eq : subtotalsOf {} tags = [⟨cell "A3", 9, "Notes", .other⟩] := by
  decide +kernel

/-- The total is the only one, and it counts. -/
theorem totalsOf_eq : totalsOf {} tags = [⟨cell "A5", "Ad server clicks", .count⟩] := by
  decide +kernel

/-- The total adds the subtotal and the single cell. -/
theorem totalTerms_eq :
    totalTerms grid range (subtotalsOf {} tags) (cell "A5") = [cell "A3", cell "A4"] := by
  rw [subtotalsOf_eq]
  decide +kernel

/-- The tags are resolved. -/
theorem exists_resolve_eq : ∃ out, resolve grid range {} = .ok out := by
  have hclear : Subtotal.ambiguity? (subtotalsOf {} tags) = none := by
    rw [subtotalsOf_eq]
    simp [Subtotal.ambiguity?, Subtotal.firstClash?]
  rcases resolve_cases range tags_eq hclear with
    hok | ⟨error, -, ⟨t, ht, hbad⟩ | ⟨s, hs, hbad⟩⟩
  · exact hok
  · rw [totalsOf_eq, List.mem_singleton] at ht
    simp [ht, plainTotal?] at hbad
  · rw [subtotalsOf_eq, List.mem_singleton] at hs
    simp [hs, subtotalValue?] at hbad

end BelowSubtotal

/-- The total below a subtotal of another name covers it and the single cell, and its formula names
the two. -/
theorem count_total_covers_exactly_below_other_subtotal :
    ∃ g' r, resolve BelowSubtotal.grid BelowSubtotal.range {} = .ok (g', r) ∧
      ∃ t ∈ r.totals, t.kind = .count ∧ g'.get t.cell ≠ .formula "=0" ∧
        (∃ named others,
          CoversExactly BelowSubtotal.grid BelowSubtotal.range r.subtotals t.cell named others ∧
          g'.ShowsAddition t.cell (named.map (·.cell) ++ others)) ∧
        g'.get t.cell = .formula "=A3+A4" := by
  obtain ⟨⟨g', r⟩, hresolve⟩ := BelowSubtotal.exists_resolve_eq
  have hr := resolve_eq_ok hresolve
  have ht : (⟨BelowSubtotal.cell "A5", "Ad server clicks", .count⟩ : Total) ∈ r.totals :=
    hr.mem_totals.mpr
      ⟨(Grid.mem_tags_iff BelowSubtotal.tags_eq).mp (by simp [BelowSubtotal.tags]),
        by decide +kernel⟩
  obtain ⟨-, hcover, hzero⟩ := count_total_covers_exactly hresolve ht rfl
  have hadds := hr.showsAddition_of_total ht rfl
  have hsubtotals : r.subtotals = subtotalsOf {} BelowSubtotal.tags := by
    obtain ⟨_, hof, heq⟩ := map_eq_ok_iff.mp hresolve
    obtain ⟨-, rfl⟩ := Prod.mk.inj heq
    obtain ⟨tags, _, _, htags, -, -, -, rfl⟩ := exists_of_ofGrid hof
    obtain rfl := Except.ok.inj (BelowSubtotal.tags_eq.symm.trans htags)
    rfl
  refine ⟨g', r, hresolve, _, ht, rfl, fun h => ?_, hcover, ?_⟩
  · have habove : BelowSubtotal.range.IsAbove (BelowSubtotal.cell "A5") (BelowSubtotal.cell "A4") :=
      ⟨rfl, by decide, by decide⟩
    have hempty := hzero.mp h _ habove
    exact absurd hempty (by decide)
  · rw [hsubtotals, BelowSubtotal.totalTerms_eq] at hadds
    exact (hadds.sum (by simp)).trans (by decide)

end Resolution

end SheetReport
