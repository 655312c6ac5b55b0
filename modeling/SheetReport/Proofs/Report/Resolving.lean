import SheetReport.Proofs.Sequence
import SheetReport.Proofs.Sheet.Writing
import SheetReport.Proofs.Tag.Reading
import SheetReport.Report.Resolution

/-!
# What resolving leaves in a grid

The tags of a grid are those of its texts, row by row, and a cell holds one tag at most. So the
values that resolving collects in three passes go to different cells: each subtotal or total is
replaced by the value of its own kind, and every other cell stays as it is.

Main statements: `resolve_eq_ok` for what resolving collects and writes, and the lemmas on
`Resolved` that read the resolved grid.
-/

namespace SheetReport

/-- A value has a text exactly when it is that text. -/
theorem Value.text?_eq_some_iff {v : Value} {s : String} : v.text? = some s ↔ v = .text s := by
  cases v <;> simp [Value.text?]

namespace Grid

/-- Whether the text of a cell is read as a tag. -/
def HoldsTag (g : Grid) (c : Cell) (tag : Tag) : Prop :=
  ∃ text, g.get c = .text text ∧ Tag.read text = .ok (some tag)

/-- A cell holds at most one tag. -/
theorem HoldsTag.unique {g : Grid} {c : Cell} {a b : Tag} (ha : g.HoldsTag c a)
    (hb : g.HoldsTag c b) : a = b := by
  obtain ⟨text, htext, hread⟩ := ha
  obtain ⟨text', htext', hread'⟩ := hb
  obtain rfl := Value.text.inj (htext.symm.trans htext')
  simpa using hread.symm.trans hread'

/-- The tag of a cell, if its value is a text that is read as one. -/
def tagAt? (e : Cell × Value) : Option (Cell × Tag) :=
  match e.2.text?.map Tag.read with
  | some (.ok (some tag)) => some (e.1, tag)
  | _ => none

/-- A cell's tag is the tag its text is read as. -/
theorem tagAt?_eq_some_iff {e : Cell × Value} {c : Cell} {tag : Tag} :
    tagAt? e = some (c, tag) ↔
      e.1 = c ∧ ∃ text, e.2 = .text text ∧ Tag.read text = .ok (some tag) := by
  unfold tagAt?
  constructor
  · intro h
    split at h
    · rename_i found hread
      obtain ⟨text, htext, hread⟩ := Option.map_eq_some_iff.mp hread
      simp only [Option.some.injEq, Prod.mk.injEq] at h
      obtain ⟨rfl, rfl⟩ := h
      exact ⟨rfl, text, Value.text?_eq_some_iff.mp htext, hread⟩
    · contradiction
  · intro hboth
    obtain ⟨rfl, text, htext, hread⟩ := hboth
    rw [htext]
    simp only [Value.text?, Option.map_some, hread]

/-- The tags of a list of cells are read exactly when no text is rejected, and then they are
the tags of the single cells, in order. -/
theorem tagsOf_eq_ok_iff {entries : List (Cell × Value)} {tags : List (Cell × Tag)} :
    tagsOf entries = .ok tags ↔
      (∀ e ∈ entries, ∀ text, e.2 = .text text → Tag.isRejected text = false) ∧
        tags = entries.filterMap tagAt? := by
  induction entries generalizing tags with
  | nil => exact ⟨fun h => ⟨by simp, (Except.ok.inj h).symm⟩, fun h => by rw [h.2]; rfl⟩
  | cons e rest ih =>
    obtain ⟨cell, value⟩ := e
    rw [tagsOf, List.forall_mem_cons, List.filterMap_cons]
    cases hvalue : value.text? with
    | none =>
      have hnot : ∀ text, value = .text text → Tag.isRejected text = false := by
        intro text heq
        subst heq
        simp [Value.text?] at hvalue
      simp only [tagAt?, hvalue, Option.map_none, ih]
      exact and_congr_left' ⟨fun h => ⟨hnot, h⟩, And.right⟩
    | some text =>
      obtain rfl := Value.text?_eq_some_iff.mp hvalue
      simp only [Tag.isRejected_eq_false_iff] at ih ⊢
      simp only [Value.text.injEq, forall_eq', tagAt?, Value.text?, Option.map_some]
      cases hread : Tag.read text with
      | error error => simp
      | ok tag? =>
        cases tag? with
        | none => simpa only [Except.ok.injEq, exists_eq', true_and] using ih
        | some tag =>
          simp only [Except.ok.injEq, exists_eq', true_and]
          constructor
          · intro h
            obtain ⟨tags, hrest, rfl⟩ := map_eq_ok_iff.mp h
            obtain ⟨hall, rfl⟩ := ih.mp hrest
            exact ⟨hall, rfl⟩
          · intro hboth
            obtain ⟨hall, rfl⟩ := hboth
            exact map_eq_ok_iff.mpr ⟨_, ih.mpr ⟨hall, rfl⟩, rfl⟩

/-- The tags of a grid can be read exactly when no text is rejected. -/
theorem exists_tags_eq_ok_iff {g : Grid} :
    (∃ tags, g.tags = .ok tags) ↔
      ∀ c text, g.get c = .text text → Tag.isRejected text = false := by
  unfold tags
  simp only [tagsOf_eq_ok_iff, exists_and_left, exists_eq, and_true]
  constructor
  · intro h c text htext
    exact h (c, .text text) (mem_entries.mpr ⟨htext, by simp⟩) text rfl
  · intro h e he text htext
    exact h e.1 text ((mem_entries.mp he).1.trans htext)

/-- The tags of a grid are the tags of its cells. -/
theorem mem_tags_iff {g : Grid} {tags : List (Cell × Tag)} (h : g.tags = .ok tags) {c : Cell}
    {tag : Tag} : (c, tag) ∈ tags ↔ g.HoldsTag c tag := by
  obtain ⟨-, rfl⟩ := tagsOf_eq_ok_iff.mp h
  simp only [List.mem_filterMap, tagAt?_eq_some_iff, Prod.exists, HoldsTag]
  constructor
  · intro hex
    obtain ⟨c', v, he, rfl, text, rfl, hread⟩ := hex
    exact ⟨text, (mem_entries.mp he).1, hread⟩
  · intro hex
    obtain ⟨text, htext, hread⟩ := hex
    exact ⟨c, .text text, mem_entries.mpr ⟨htext, by simp⟩, rfl, text, rfl, hread⟩

/-- The tags of a grid come row by row. -/
theorem pairwise_tags {g : Grid} {tags : List (Cell × Tag)} (h : g.tags = .ok tags) :
    tags.Pairwise fun a b => a.1.index < b.1.index := by
  obtain ⟨-, rfl⟩ := tagsOf_eq_ok_iff.mp h
  refine g.pairwise_entries.filterMap _ fun a b hab x hx y hy => ?_
  obtain ⟨hx, -⟩ := tagAt?_eq_some_iff.mp hx
  obtain ⟨hy, -⟩ := tagAt?_eq_some_iff.mp hy
  rw [← hx, ← hy]
  exact hab

end Grid

namespace Resolution

/-- The subtotals among tags, with the kinds of their columns. -/
theorem mem_subtotalsOf_iff {kinds : ColumnKinds} {tags : List (Cell × Tag)} {s : Subtotal} :
    s ∈ subtotalsOf kinds tags ↔
      (s.cell, .subtotal s.size s.column) ∈ tags ∧ s.kind = kinds.classify s.column := by
  rw [subtotalsOf, List.mem_filterMap]
  constructor
  · intro hex
    obtain ⟨⟨c, tag⟩, hmem, h⟩ := hex
    cases tag <;> simp only [reduceCtorEq, Option.some.injEq] at h
    obtain rfl := h
    exact ⟨hmem, rfl⟩
  · intro hboth
    obtain ⟨hmem, hkind⟩ := hboth
    refine ⟨_, hmem, ?_⟩
    simp only [← hkind]

/-- The totals among tags, with the kinds of their columns. -/
theorem mem_totalsOf_iff {kinds : ColumnKinds} {tags : List (Cell × Tag)} {t : Total} :
    t ∈ totalsOf kinds tags ↔
      (t.cell, .total t.column) ∈ tags ∧ t.kind = kinds.classify t.column := by
  rw [totalsOf, List.mem_filterMap]
  constructor
  · intro hex
    obtain ⟨⟨c, tag⟩, hmem, h⟩ := hex
    cases tag <;> simp only [reduceCtorEq, Option.some.injEq] at h
    obtain rfl := h
    exact ⟨hmem, rfl⟩
  · intro hboth
    obtain ⟨hmem, hkind⟩ := hboth
    refine ⟨_, hmem, ?_⟩
    simp only [← hkind]

/-- What is taken from tags, each from one cell, stays in order. -/
theorem pairwise_filterMap_tags {α : Type} (cell : α → Cell) {f : Cell × Tag → Option α}
    (hf : ∀ e a, f e = some a → cell a = e.1) {tags : List (Cell × Tag)}
    (h : tags.Pairwise fun a b => a.1.index < b.1.index) :
    (tags.filterMap f).Pairwise fun a b => (cell a).index < (cell b).index := by
  refine h.filterMap f fun d e hde a ha b hb => ?_
  rw [hf d a ha, hf e b hb]
  exact hde

/-- The subtotals among tags stay in order. -/
theorem pairwise_subtotalsOf {kinds : ColumnKinds} {tags : List (Cell × Tag)}
    (h : tags.Pairwise fun a b => a.1.index < b.1.index) :
    (subtotalsOf kinds tags).Pairwise fun a b => a.cell.index < b.cell.index := by
  refine pairwise_filterMap_tags Subtotal.cell (fun e s hs => ?_) h
  obtain ⟨c, tag⟩ := e
  cases tag <;> simp only [reduceCtorEq, Option.some.injEq] at hs
  rw [← hs]

/-- The totals among tags stay in order. -/
theorem pairwise_totalsOf {kinds : ColumnKinds} {tags : List (Cell × Tag)}
    (h : tags.Pairwise fun a b => a.1.index < b.1.index) :
    (totalsOf kinds tags).Pairwise fun a b => a.cell.index < b.cell.index := by
  refine pairwise_filterMap_tags Total.cell (fun e t ht => ?_) h
  obtain ⟨c, tag⟩ := e
  cases tag <;> simp only [reduceCtorEq, Option.some.injEq] at ht
  rw [← ht]

/-- What a total is replaced by, whichever pass writes it. -/
def totalValue? (g : Grid) (extent : Extent) (kinds : ColumnKinds) (subtotals : List Subtotal)
    (t : Total) : Except ReportError (Option (Cell × Value)) :=
  match t.kind with
  | .count => .ok (some (t.cell, addFormula (totalTerms g extent subtotals t.cell)))
  | _ => plainTotal? kinds t

/-- A total is written by one of two passes. -/
theorem totalValue?_eq_ok_some_iff {g : Grid} {extent : Extent} {kinds : ColumnKinds}
    {subtotals : List Subtotal} {t : Total} {w : Cell × Value} :
    totalValue? g extent kinds subtotals t = .ok (some w) ↔
      plainTotal? kinds t = .ok (some w) ∨ countTotal? g extent subtotals t = some w := by
  unfold totalValue? countTotal? plainTotal?
  cases t.kind <;> simp

/-- A total is replaced in its own cell. -/
theorem fst_of_totalValue? {g : Grid} {extent : Extent} {kinds : ColumnKinds}
    {subtotals : List Subtotal} {t : Total} {w : Cell × Value}
    (h : totalValue? g extent kinds subtotals t = .ok (some w)) : w.1 = t.cell := by
  unfold totalValue? plainTotal? at h
  cases hkind : t.kind <;> simp only [hkind, Except.ok.injEq, Option.some.injEq, reduceCtorEq] at h
  · obtain ⟨v, -, hv⟩ := map_eq_ok_iff.mp h
    rw [← Option.some.inj hv]
  · rw [← h]
  · rw [← h]

/-- A subtotal is replaced in its own cell. -/
theorem fst_of_subtotalValue? {kinds : ColumnKinds} {s : Subtotal} {w : Cell × Value}
    (h : subtotalValue? kinds s = .ok (some w)) : w.1 = s.cell := by
  unfold subtotalValue? at h
  cases hkind : s.kind <;> simp only [hkind, Except.ok.injEq, Option.some.injEq, reduceCtorEq] at h
  · obtain ⟨v, -, hv⟩ := map_eq_ok_iff.mp h
    rw [← Option.some.inj hv]
  · obtain ⟨v, -, hv⟩ := map_eq_ok_iff.mp h
    rw [← Option.some.inj hv]
  · rw [← h]

/-- What resolving the tags of `g` collects and leaves in `g'`. -/
structure Resolved (g : Grid) (extent : Extent) (kinds : ColumnKinds) (g' : Grid)
    (r : Resolution) : Prop where
  mem_subtotals : ∀ {s : Subtotal}, s ∈ r.subtotals ↔
    g.HoldsTag s.cell (.subtotal s.size s.column) ∧ s.kind = kinds.classify s.column
  mem_totals : ∀ {t : Total}, t ∈ r.totals ↔
    g.HoldsTag t.cell (.total t.column) ∧ t.kind = kinds.classify t.column
  pairwise_subtotals : r.subtotals.Pairwise fun a b => a.cell.index < b.cell.index
  exists_total : ∀ t ∈ r.totals, ∃ w, totalValue? g extent kinds r.subtotals t = .ok w
  exists_subtotal : ∀ s ∈ r.subtotals, ∃ w, subtotalValue? kinds s = .ok w
  mem_writes : ∀ {w : Cell × Value}, w ∈ r.writes ↔
    (∃ t ∈ r.totals, totalValue? g extent kinds r.subtotals t = .ok (some w)) ∨
      ∃ s ∈ r.subtotals, subtotalValue? kinds s = .ok (some w)
  grid : g' = g.setAll r.writes

/-- What a resolution consists of: the tags could be read, none is ambiguous, and each of the three
passes that collect values succeeded. -/
theorem exists_of_ofGrid {g : Grid} {extent : Extent} {kinds : ColumnKinds} {r : Resolution}
    (h : ofGrid g extent kinds = .ok r) :
    ∃ tags plain sums, g.tags = .ok tags ∧
      Subtotal.ambiguity? (subtotalsOf kinds tags) = none ∧
      (totalsOf kinds tags).mapM (plainTotal? kinds) = .ok plain ∧
      (subtotalsOf kinds tags).mapM (subtotalValue? kinds) = .ok sums ∧
      r = ⟨subtotalsOf kinds tags, totalsOf kinds tags, plain.filterMap id ++
        (totalsOf kinds tags).filterMap (countTotal? g extent (subtotalsOf kinds tags)) ++
          sums.filterMap id⟩ := by
  unfold ofGrid at h
  obtain ⟨tags, htags, h⟩ := bind_eq_ok_iff.mp h
  dsimp only at h
  split at h
  · contradiction
  · rename_i hclear
    obtain ⟨plain, hplain, h⟩ := bind_eq_ok_iff.mp h
    obtain ⟨sums, hsums, h⟩ := bind_eq_ok_iff.mp h
    exact ⟨tags, plain, sums, htags, hclear, hplain, hsums, (Except.ok.inj h).symm⟩

/-- A resolution that succeeds collects all aggregates and writes the value of each. -/
theorem resolve_eq_ok {g g' : Grid} {extent : Extent} {kinds : ColumnKinds} {r : Resolution}
    (h : resolve g extent kinds = .ok (g', r)) : Resolved g extent kinds g' r := by
  obtain ⟨r, hr, heq⟩ := map_eq_ok_iff.mp h
  obtain ⟨rfl, rfl⟩ := Prod.mk.inj heq
  obtain ⟨tags, plain, sums, htags, -, hplain, hsums, rfl⟩ := exists_of_ofGrid hr
  refine ⟨?_, ?_, ?_, ?_, ?_, ?_, rfl⟩
  · intro s
    rw [mem_subtotalsOf_iff, Grid.mem_tags_iff htags]
  · intro t
    rw [mem_totalsOf_iff, Grid.mem_tags_iff htags]
  · exact pairwise_subtotalsOf (Grid.pairwise_tags htags)
  · intro t ht
    obtain ⟨w, hw⟩ := exists_mapM_eq_ok_iff.mp ⟨plain, hplain⟩ t ht
    unfold totalValue?
    cases t.kind with
    | count => exact ⟨_, rfl⟩
    | _ => exact ⟨w, hw⟩
  · exact exists_mapM_eq_ok_iff.mp ⟨sums, hsums⟩
  · intro w
    have hmemPlain := mem_of_mapM_eq_ok hplain (some w)
    have hmemSums := mem_of_mapM_eq_ok hsums (some w)
    simp only [List.mem_append, List.mem_filterMap, id_eq, exists_eq_right, hmemPlain, hmemSums,
      totalValue?_eq_ok_some_iff, and_or_left, exists_or]

/-- Tags that can be read and are not ambiguous are replaced one after another. -/
theorem ofGrid_eq {g : Grid} (extent : Extent) {kinds : ColumnKinds} {tags : List (Cell × Tag)}
    (htags : g.tags = .ok tags)
    (hclear : Subtotal.ambiguity? (subtotalsOf kinds tags) = none) :
    ofGrid g extent kinds = (do
      let plain ← (totalsOf kinds tags).mapM (plainTotal? kinds)
      let sums ← (subtotalsOf kinds tags).mapM (subtotalValue? kinds)
      .ok ⟨subtotalsOf kinds tags, totalsOf kinds tags, plain.filterMap id ++
        (totalsOf kinds tags).filterMap (countTotal? g extent (subtotalsOf kinds tags)) ++
          sums.filterMap id⟩) := by
  simp only [ofGrid, htags, hclear, bind, Except.bind]

/-- Tags that can be read and are not ambiguous are resolved, unless the formula of a total or a
subtotal cannot be built. -/
theorem resolve_cases {g : Grid} (extent : Extent) {kinds : ColumnKinds}
    {tags : List (Cell × Tag)} (htags : g.tags = .ok tags)
    (hclear : Subtotal.ambiguity? (subtotalsOf kinds tags) = none) :
    (∃ out, resolve g extent kinds = .ok out) ∨
      ∃ error, resolve g extent kinds = .error error ∧
        ((∃ t ∈ totalsOf kinds tags, plainTotal? kinds t = .error error) ∨
          ∃ s ∈ subtotalsOf kinds tags, subtotalValue? kinds s = .error error) := by
  cases hresolve : resolve g extent kinds with
  | ok out => exact .inl ⟨out, rfl⟩
  | error error =>
    refine .inr ⟨error, rfl, ?_⟩
    rw [resolve, map_eq_error_iff, ofGrid_eq extent htags hclear] at hresolve
    rcases bind_eq_error_iff.mp hresolve with hplain | ⟨plain, -, hresolve⟩
    · exact .inl (exists_of_mapM_eq_error hplain)
    · rcases bind_eq_error_iff.mp hresolve with hsums | ⟨sums, -, hbad⟩
      · exact .inr (exists_of_mapM_eq_error hsums)
      · contradiction

namespace Resolved

variable {g g' : Grid} {extent : Extent} {kinds : ColumnKinds} {r : Resolution}

/-- Two totals of one cell are one. -/
theorem total_unique (h : Resolved g extent kinds g' r) {t t' : Total} (ht : t ∈ r.totals)
    (ht' : t' ∈ r.totals) (hcell : t.cell = t'.cell) : t = t' := by
  obtain ⟨cell, column, kind⟩ := t
  obtain ⟨cell', column', kind'⟩ := t'
  obtain ⟨hhold, hkind⟩ := h.mem_totals.mp ht
  obtain ⟨hhold', hkind'⟩ := h.mem_totals.mp ht'
  dsimp only at hcell hhold hkind hhold' hkind'
  subst hcell
  obtain rfl := Tag.total.inj (hhold.unique hhold')
  rw [hkind, hkind']

/-- Two subtotals of one cell are one. -/
theorem subtotal_unique (h : Resolved g extent kinds g' r) {s s' : Subtotal}
    (hs : s ∈ r.subtotals) (hs' : s' ∈ r.subtotals) (hcell : s.cell = s'.cell) : s = s' := by
  obtain ⟨cell, size, column, kind⟩ := s
  obtain ⟨cell', size', column', kind'⟩ := s'
  obtain ⟨hhold, hkind⟩ := h.mem_subtotals.mp hs
  obtain ⟨hhold', hkind'⟩ := h.mem_subtotals.mp hs'
  dsimp only at hcell hhold hkind hhold' hkind'
  subst hcell
  obtain ⟨rfl, rfl⟩ := Tag.subtotal.inj (hhold.unique hhold')
  rw [hkind, hkind']

/-- A total and a subtotal have different cells. -/
theorem total_ne_subtotal (h : Resolved g extent kinds g' r) {t : Total} {s : Subtotal}
    (ht : t ∈ r.totals) (hs : s ∈ r.subtotals) : t.cell ≠ s.cell := by
  intro hcell
  have htotal := (h.mem_totals.mp ht).1
  rw [hcell] at htotal
  exact absurd (htotal.unique (h.mem_subtotals.mp hs).1) (by simp)

/-- The cell of a total holds what the total is replaced by. -/
theorem get_total (h : Resolved g extent kinds g' r) {t : Total} (ht : t ∈ r.totals) :
    ∃ w, totalValue? g extent kinds r.subtotals t = .ok w ∧
      g'.get t.cell = (w.map Prod.snd).getD (g.get t.cell) := by
  obtain ⟨w, hw⟩ := h.exists_total t ht
  refine ⟨w, hw, ?_⟩
  have hall : ∀ w' ∈ r.writes, w'.1 = t.cell → w = some w' := by
    intro w' hmem hcell
    rcases h.mem_writes.mp hmem with ⟨t', ht', hw'⟩ | ⟨s, hs, hw'⟩
    · obtain rfl := h.total_unique ht' ht ((fst_of_totalValue? hw').symm.trans hcell)
      exact Except.ok.inj (hw.symm.trans hw')
    · exact absurd (hcell.symm.trans (fst_of_subtotalValue? hw')) (h.total_ne_subtotal ht hs)
  rw [h.grid]
  cases w with
  | none =>
    exact Grid.get_setAll_of_ne fun w' hmem hcell => absurd (hall w' hmem hcell) (by simp)
  | some w =>
    have hcell := fst_of_totalValue? hw
    have hmem : (t.cell, w.2) ∈ r.writes := by
      rw [← hcell]
      exact h.mem_writes.mpr (.inl ⟨t, ht, hw⟩)
    refine Grid.get_setAll_of_agree hmem fun w' hmem' hcell' => ?_
    obtain rfl := Option.some.inj (hall w' hmem' hcell')
    rfl

/-- The cell of a subtotal holds what the subtotal is replaced by. -/
theorem get_subtotal (h : Resolved g extent kinds g' r) {s : Subtotal} (hs : s ∈ r.subtotals) :
    ∃ w, subtotalValue? kinds s = .ok w ∧
      g'.get s.cell = (w.map Prod.snd).getD (g.get s.cell) := by
  obtain ⟨w, hw⟩ := h.exists_subtotal s hs
  refine ⟨w, hw, ?_⟩
  have hall : ∀ w' ∈ r.writes, w'.1 = s.cell → w = some w' := by
    intro w' hmem hcell
    rcases h.mem_writes.mp hmem with ⟨t, ht, hw'⟩ | ⟨s', hs', hw'⟩
    · exact absurd ((fst_of_totalValue? hw').symm.trans hcell) (h.total_ne_subtotal ht hs)
    · obtain rfl := h.subtotal_unique hs' hs ((fst_of_subtotalValue? hw').symm.trans hcell)
      exact Except.ok.inj (hw.symm.trans hw')
  rw [h.grid]
  cases w with
  | none =>
    exact Grid.get_setAll_of_ne fun w' hmem hcell => absurd (hall w' hmem hcell) (by simp)
  | some w =>
    have hcell := fst_of_subtotalValue? hw
    have hmem : (s.cell, w.2) ∈ r.writes := by
      rw [← hcell]
      exact h.mem_writes.mpr (.inr ⟨s, hs, hw⟩)
    refine Grid.get_setAll_of_agree hmem fun w' hmem' hcell' => ?_
    obtain rfl := Option.some.inj (hall w' hmem' hcell')
    rfl

/-- A cell that holds no subtotal and no total stays as it is. -/
theorem get_of_not_aggregate (h : Resolved g extent kinds g' r) {c : Cell}
    (hc : ∀ tag, g.HoldsTag c tag → tag.isAggregate = false) : g'.get c = g.get c := by
  rw [h.grid]
  apply Grid.get_setAll_of_ne
  intro w hw heq
  subst heq
  rcases h.mem_writes.mp hw with ⟨t, ht, hw⟩ | ⟨s, hs, hw⟩
  · have hhold := (h.mem_totals.mp ht).1
    rw [← fst_of_totalValue? hw] at hhold
    simpa [Tag.isAggregate] using hc _ hhold
  · have hhold := (h.mem_subtotals.mp hs).1
    rw [← fst_of_subtotalValue? hw] at hhold
    simpa [Tag.isAggregate] using hc _ hhold

end Resolved

end Resolution

end SheetReport
