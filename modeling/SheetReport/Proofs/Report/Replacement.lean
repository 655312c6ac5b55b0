import SheetReport.Proofs.Report.ExactCover

/-!
# Every aggregate is replaced once

Resolving lists each subtotal and each total of a grid once, row by row. The three passes that
collect values go over these lists: two over the totals, of which each writes other kinds of
columns, and one over the subtotals. So no cell is written twice, the value that is told for a
cell is the one it holds afterwards, and a cell is written exactly when it holds an aggregate
whose column has a kind.

What is written are formulas and labels. If the labels are no markup themselves, the only
aggregates left are those of columns without a kind. They were read and found unambiguous before,
and no formula has to be built for them, so resolving again succeeds and writes nothing.

Main statement: `Resolution.replaces_each_aggregate_once`.
-/

namespace SheetReport

/-- Whether a cell holds a subtotal or a total of a column. -/
def Grid.HoldsAggregate (g : Grid) (c : Cell) (column : String) : Prop :=
  ∃ tag, g.HoldsTag c tag ∧ tag.column? = some column

/-- A cell holds an aggregate of a column exactly when it holds a subtotal or a total of it. -/
theorem Grid.holdsAggregate_iff {g : Grid} {c : Cell} {column : String} :
    g.HoldsAggregate c column ↔
      (∃ size, g.HoldsTag c (.subtotal size column)) ∨ g.HoldsTag c (.total column) := by
  constructor
  · rintro ⟨tag, hholds, hcolumn⟩
    cases tag with
    | anchor name => contradiction
    | subtotal size column' =>
      obtain rfl := Option.some.inj hcolumn
      exact .inl ⟨size, hholds⟩
    | total column' =>
      obtain rfl := Option.some.inj hcolumn
      exact .inr hholds
    | decorative name => contradiction
  · rintro (⟨size, hholds⟩ | hholds)
    · exact ⟨_, hholds, rfl⟩
    · exact ⟨_, hholds, rfl⟩

namespace Resolution

variable {g g' : Grid} {extent : Extent} {kinds : ColumnKinds} {r : Resolution}

/-! ## Resolving in place -/

/-- A loop of writes in place writes all of them. -/
theorem run_forM_set (writes : List (Cell × Value)) (g : Grid) :
    (writes.forM fun w => modify fun g => g.set w.1 w.2 :
      ExceptT ReportError (StateM Grid) Unit).run.run g = (.ok (), g.setAll writes) := by
  induction writes generalizing g with
  | nil => rfl
  | cons w rest ih => exact ih (g.set w.1 w.2)

/-- Resolving in place gives the resolved grid, or the grid as it was if there is none. -/
theorem run_resolveIn (g : Grid) (extent : Extent) (kinds : ColumnKinds) :
    (resolveIn extent kinds).run.run g =
      match resolve g extent kinds with
      | .ok (g', r) => (.ok r, g')
      | .error error => (.error error, g) := by
  have hread : (resolveIn extent kinds).run.run g =
      (do
        let r ← ofGrid g extent kinds
        r.writes.forM fun w => modify fun g => g.set w.1 w.2
        return r : ExceptT ReportError (StateM Grid) Resolution).run.run g := rfl
  rw [hread, resolve]
  cases ofGrid g extent kinds with
  | error error => rfl
  | ok r =>
    change ((r.writes.forM fun w => modify fun g => g.set w.1 w.2 :
      ExceptT ReportError (StateM Grid) Unit) >>= fun _ => pure r).run.run g = _
    rw [ExceptT.run_bind, StateT.run_bind, run_forM_set]
    rfl

/-- A resolution in place succeeds exactly when there is a resolved grid. -/
theorem run_resolveIn_eq_ok_iff :
    (resolveIn extent kinds).run.run g = (.ok r, g') ↔ resolve g extent kinds = .ok (g', r) := by
  rw [run_resolveIn]
  cases resolve g extent kinds with
  | error error =>
    constructor
    · intro h
      cases (Prod.mk.inj h).1
    · intro h
      cases h
  | ok out =>
    constructor
    · intro h
      obtain ⟨hr, hg⟩ := Prod.mk.inj h
      rw [← hg, ← Except.ok.inj hr]
    · intro h
      rw [Except.ok.inj h]

/-- A resolution in place that fails leaves the grid as it was. -/
theorem eq_of_run_resolveIn_eq_error {error : ReportError}
    (h : (resolveIn extent kinds).run.run g = (.error error, g')) : g' = g := by
  rw [run_resolveIn] at h
  cases hresolve : resolve g extent kinds with
  | error error' =>
    rw [hresolve] at h
    exact (Prod.mk.inj h).2.symm
  | ok out =>
    rw [hresolve] at h
    cases (Prod.mk.inj h).1

/-! ## What is written -/

/-- A total is kept exactly when its column has no kind. -/
theorem totalValue?_eq_ok_none_iff {subtotals : List Subtotal} {t : Total} :
    totalValue? g extent kinds subtotals t = .ok none ↔ t.kind = .other := by
  unfold totalValue? plainTotal?
  cases t.kind <;> simp [map_eq_ok_iff]

/-- A subtotal is kept exactly when its column has no kind. -/
theorem subtotalValue?_eq_ok_none_iff {s : Subtotal} :
    subtotalValue? kinds s = .ok none ↔ s.kind = .other := by
  unfold subtotalValue?
  cases s.kind <;> simp [map_eq_ok_iff]

/-- What the first pass over the totals writes stands in the total's own cell. -/
theorem fst_of_plainTotal? {t : Total} {w : Cell × Value}
    (h : plainTotal? kinds t = .ok (some w)) : w.1 = t.cell := by
  have hvalue : totalValue? .empty ⟨t.cell, t.cell⟩ kinds [] t = .ok (some w) :=
    totalValue?_eq_ok_some_iff.mpr (.inl h)
  exact fst_of_totalValue? hvalue

/-- What the second pass over the totals writes stands in the cell of a counted total. -/
theorem fst_of_countTotal? {subtotals : List Subtotal} {t : Total} {w : Cell × Value}
    (h : countTotal? g extent subtotals t = some w) : w.1 = t.cell ∧ t.kind = .count := by
  unfold countTotal? at h
  split at h
  · rename_i hkind
    exact ⟨by rw [← Option.some.inj h], hkind⟩
  · contradiction

/-- What is written for entries of a list with different cells, each in its own cell, is written
in different cells. -/
theorem nodup_fst_filterMap {α : Type} (cell : α → Cell) {l : List α}
    (hl : l.Pairwise fun a b => (cell a).index < (cell b).index) {f : α → Option (Cell × Value)}
    (hf : ∀ a w, f a = some w → w.1 = cell a) : ((l.filterMap f).map Prod.fst).Nodup := by
  refine Cell.nodup_of_pairwise_index (List.pairwise_map.mpr ?_)
  refine hl.filterMap f fun a b hab w hw w' hw' => ?_
  rw [hf a w hw, hf b w' hw']
  exact hab

/-- A cell that is written for a list is written for one of its entries. -/
theorem exists_of_mem_fst_filterMap {α : Type} {l : List α} {f : α → Option (Cell × Value)}
    {c : Cell} (h : c ∈ (l.filterMap f).map Prod.fst) : ∃ a ∈ l, ∃ w, f a = some w ∧ w.1 = c := by
  obtain ⟨w, hw, rfl⟩ := List.mem_map.mp h
  obtain ⟨a, ha, hf⟩ := List.mem_filterMap.mp hw
  exact ⟨a, ha, w, hf, rfl⟩

/-- The values that a pass over a list finds are those of its entries. -/
theorem filterMap_id_of_mapM_eq_ok {α β ε : Type} {f : α → Except ε (Option β)} {l : List α}
    {out : List (Option β)} (h : l.mapM f = .ok out) :
    out.filterMap id = l.filterMap fun a => (f a).toOption.join := by
  rw [eq_filterMap_of_mapM_eq_ok h, List.filterMap_filterMap]
  refine List.filterMap_congr fun a _ => ?_
  cases (f a).toOption <;> rfl

/-- What is found for an entry is its value. -/
theorem join_toOption_eq_some_iff {β ε : Type} {x : Except ε (Option β)} {b : β} :
    x.toOption.join = some b ↔ x = .ok (some b) := by
  cases x <;> simp [Except.toOption]

/-- Totals are listed row by row. -/
theorem pairwise_totals (h : resolve g extent kinds = .ok (g', r)) :
    r.totals.Pairwise fun a b => a.cell.index < b.cell.index := by
  obtain ⟨r', hgrid, heq⟩ := map_eq_ok_iff.mp h
  obtain ⟨-, rfl⟩ := Prod.mk.inj heq
  obtain ⟨tags, -, -, htags, -, -, -, rfl⟩ := exists_of_ofGrid hgrid
  exact pairwise_totalsOf (Grid.pairwise_tags htags)

/-- No cell is written twice. -/
theorem nodup_writes (h : resolve g extent kinds = .ok (g', r)) :
    (r.writes.map Prod.fst).Nodup := by
  have hr := resolve_eq_ok h
  obtain ⟨r, hgrid, heq⟩ := map_eq_ok_iff.mp h
  obtain ⟨-, rfl⟩ := Prod.mk.inj heq
  obtain ⟨tags, plain, sums, htags, -, hplain, hsums, rfl⟩ := exists_of_ofGrid hgrid
  have htotals : (totalsOf kinds tags).Pairwise fun a b => a.cell.index < b.cell.index :=
    pairwise_totalsOf (Grid.pairwise_tags htags)
  have hsubtotals : (subtotalsOf kinds tags).Pairwise fun a b => a.cell.index < b.cell.index :=
    pairwise_subtotalsOf (Grid.pairwise_tags htags)
  rw [filterMap_id_of_mapM_eq_ok hplain, filterMap_id_of_mapM_eq_ok hsums, List.map_append,
    List.map_append]
  refine List.nodup_append.mpr ⟨List.nodup_append.mpr ⟨?_, ?_, ?_⟩, ?_, ?_⟩
  · exact nodup_fst_filterMap Total.cell htotals fun t w hw =>
      fst_of_plainTotal? (join_toOption_eq_some_iff.mp hw)
  · exact nodup_fst_filterMap Total.cell htotals fun t w hw => (fst_of_countTotal? hw).1
  · intro c hc c' hc' heq
    obtain ⟨t, ht, w, hplain, rfl⟩ := exists_of_mem_fst_filterMap hc
    obtain ⟨t', ht', w', hcount, rfl⟩ := exists_of_mem_fst_filterMap hc'
    rw [join_toOption_eq_some_iff] at hplain
    obtain ⟨hcell, hkind⟩ := fst_of_countTotal? hcount
    rw [fst_of_plainTotal? hplain, hcell] at heq
    -- both passes would write one total, but the first one leaves counts to the second
    obtain rfl := hr.total_unique ht ht' heq
    simp [plainTotal?, hkind] at hplain
  · exact nodup_fst_filterMap Subtotal.cell hsubtotals fun s w hw =>
      fst_of_subtotalValue? (join_toOption_eq_some_iff.mp hw)
  · intro c hc c' hc' heq
    obtain ⟨s, hs, w', hsum, rfl⟩ := exists_of_mem_fst_filterMap hc'
    rw [fst_of_subtotalValue? (join_toOption_eq_some_iff.mp hsum)] at heq
    rcases List.mem_append.mp hc with hc | hc
    · obtain ⟨t, ht, w, hplain, rfl⟩ := exists_of_mem_fst_filterMap hc
      rw [fst_of_plainTotal? (join_toOption_eq_some_iff.mp hplain)] at heq
      exact hr.total_ne_subtotal ht hs heq
    · obtain ⟨t, ht, w, hcount, rfl⟩ := exists_of_mem_fst_filterMap hc
      rw [(fst_of_countTotal? hcount).1] at heq
      exact hr.total_ne_subtotal ht hs heq

namespace Resolved

/-- A subtotal of a column with a kind is told as written, with the value it leaves. -/
theorem subtotal_mem_writes (h : Resolved g extent kinds g' r) {s : Subtotal}
    (hs : s ∈ r.subtotals) (hkind : s.kind ≠ .other) : (s.cell, g'.get s.cell) ∈ r.writes := by
  obtain ⟨value, hvalue, hget⟩ := h.get_subtotal hs
  cases value with
  | none => exact absurd (subtotalValue?_eq_ok_none_iff.mp hvalue) hkind
  | some w =>
    have hw : w = (s.cell, g'.get s.cell) := Prod.ext (fst_of_subtotalValue? hvalue) hget.symm
    exact h.mem_writes.mpr (.inr ⟨s, hs, hw ▸ hvalue⟩)

/-- A total of a column with a kind is told as written, with the value it leaves. -/
theorem total_mem_writes (h : Resolved g extent kinds g' r) {t : Total}
    (ht : t ∈ r.totals) (hkind : t.kind ≠ .other) : (t.cell, g'.get t.cell) ∈ r.writes := by
  obtain ⟨value, hvalue, hget⟩ := h.get_total ht
  cases value with
  | none => exact absurd (totalValue?_eq_ok_none_iff.mp hvalue) hkind
  | some w =>
    have hw : w = (t.cell, g'.get t.cell) := Prod.ext (fst_of_totalValue? hvalue) hget.symm
    exact h.mem_writes.mpr (.inl ⟨t, ht, hw ▸ hvalue⟩)

/-- A cell is told as written, with a value, exactly when it holds an aggregate of a column with a
kind, and holds that value afterwards. -/
theorem mem_writes_iff (h : Resolved g extent kinds g' r) {c : Cell} {v : Value} :
    (c, v) ∈ r.writes ↔
      (∃ column, g.HoldsAggregate c column ∧ kinds.classify column ≠ .other) ∧ g'.get c = v := by
  simp only [Grid.holdsAggregate_iff]
  constructor
  · intro hmem
    rcases h.mem_writes.mp hmem with ⟨t, ht, hvalue⟩ | ⟨s, hs, hvalue⟩
    · obtain rfl : c = t.cell := fst_of_totalValue? hvalue
      obtain ⟨hholds, hkind⟩ := h.mem_totals.mp ht
      refine ⟨⟨t.column, .inr hholds, fun hother => ?_⟩, h.get_eq_of_totalValue? ht hvalue⟩
      rw [totalValue?_eq_ok_none_iff.mpr (hkind.trans hother)] at hvalue
      simp at hvalue
    · obtain rfl : c = s.cell := fst_of_subtotalValue? hvalue
      obtain ⟨hholds, hkind⟩ := h.mem_subtotals.mp hs
      refine ⟨⟨s.column, .inl ⟨s.size, hholds⟩, fun hother => ?_⟩,
        h.get_eq_of_subtotalValue? hs hvalue⟩
      rw [subtotalValue?_eq_ok_none_iff.mpr (hkind.trans hother)] at hvalue
      simp at hvalue
  · rintro ⟨⟨column, ⟨size, hholds⟩ | hholds, hkind⟩, rfl⟩
    · have hs : (⟨c, size, column, kinds.classify column⟩ : Subtotal) ∈ r.subtotals :=
        h.mem_subtotals.mpr ⟨hholds, rfl⟩
      exact h.subtotal_mem_writes hs hkind
    · have ht : (⟨c, column, kinds.classify column⟩ : Total) ∈ r.totals :=
        h.mem_totals.mpr ⟨hholds, rfl⟩
      exact h.total_mem_writes ht hkind

/-- A cell that is not told as written stays as it is. -/
theorem get_of_notMem_writes (h : Resolved g extent kinds g' r) {c : Cell}
    (hc : c ∉ r.writes.map Prod.fst) : g'.get c = g.get c := by
  rw [h.grid]
  exact Grid.get_setAll_of_ne fun w hw heq => hc (heq ▸ List.mem_map_of_mem hw)

/-! ## Resolving again -/

variable (hsubtotal : Tag.isMarkup kinds.subtotalLabel = false)
  (htotal : Tag.isMarkup kinds.totalLabel = false)

include hsubtotal htotal

/-- If labels are no markup, no written cell holds a text that is a tag or rejected as one. -/
theorem not_isMarkup_of_mem_writes (h : Resolved g extent kinds g' r) {c : Cell} {text : String}
    (hmem : (c, .text text) ∈ r.writes) : Tag.isMarkup text = false := by
  rcases h.snd_of_mem_writes hmem with ⟨s, heq⟩ | heq | heq
  · contradiction
  · rwa [Value.text.inj heq]
  · rwa [Value.text.inj heq]

/-- If labels are no markup, the tags left are those that are no aggregates of a column with a
kind. -/
theorem holdsTag_iff (h : Resolved g extent kinds g' r) {c : Cell} {tag : Tag} :
    g'.HoldsTag c tag ↔
      g.HoldsTag c tag ∧ ∀ column, tag.column? = some column → kinds.classify column = .other := by
  by_cases hwritten : c ∈ r.writes.map Prod.fst
  · obtain ⟨⟨c, v⟩, hmem, rfl⟩ := List.mem_map.mp hwritten
    obtain ⟨⟨column, ⟨tag', hholds', hcolumn⟩, hkind⟩, hget⟩ := h.mem_writes_iff.mp hmem
    constructor
    · rintro ⟨text, htext, hread⟩
      rw [hget] at htext
      have hlabel := h.not_isMarkup_of_mem_writes hsubtotal htotal (htext ▸ hmem)
      rw [Tag.isMarkup_eq_false_iff, hread] at hlabel
      simp at hlabel
    · rintro ⟨hholds, hother⟩
      obtain rfl := hholds.unique hholds'
      exact absurd (hother column hcolumn) hkind
  · have hsame : g'.HoldsTag c tag ↔ g.HoldsTag c tag := by
      rw [Grid.HoldsTag, h.get_of_notMem_writes hwritten, Grid.HoldsTag]
    rw [hsame, iff_self_and]
    intro hholds column hcolumn
    by_contra hkind
    exact hwritten (List.mem_map_of_mem
      (h.mem_writes_iff.mpr ⟨⟨column, ⟨tag, hholds, hcolumn⟩, hkind⟩, rfl⟩))

/-- If labels are no markup, the tags of the resolved grid can be read. -/
theorem exists_tags (h : Resolved g extent kinds g' r) (htags : ∃ tags, g.tags = .ok tags) :
    ∃ tags, g'.tags = .ok tags := by
  rw [Grid.exists_tags_eq_ok_iff] at htags ⊢
  intro c text htext
  by_cases hwritten : c ∈ r.writes.map Prod.fst
  · obtain ⟨⟨c, v⟩, hmem, rfl⟩ := List.mem_map.mp hwritten
    have hget := (h.mem_writes_iff.mp hmem).2
    rw [htext] at hget
    exact Tag.isRejected_of_not_isMarkup
      (h.not_isMarkup_of_mem_writes hsubtotal htotal (hget ▸ hmem))
  · rw [h.get_of_notMem_writes hwritten] at htext
    exact htags c text htext

end Resolved

/-- If labels are no markup, resolving again succeeds, writes nothing and leaves the grid as it
is. -/
theorem resolve_of_resolve (hsubtotal : Tag.isMarkup kinds.subtotalLabel = false)
    (htotal : Tag.isMarkup kinds.totalLabel = false)
    (h : resolve g extent kinds = .ok (g', r)) :
    ∃ r', resolve g' extent kinds = .ok (g', r') ∧ r'.writes = [] := by
  have hr := resolve_eq_ok h
  have hread : ∃ tags, g.tags = .ok tags := by
    obtain ⟨r, hgrid, -⟩ := map_eq_ok_iff.mp h
    obtain ⟨tags, -, -, htags, -⟩ := exists_of_ofGrid hgrid
    exact ⟨tags, htags⟩
  obtain ⟨tags, htags⟩ := hr.exists_tags hsubtotal htotal hread
  have hsubtotals (s : Subtotal) (hs : s ∈ subtotalsOf kinds tags) :
      s ∈ r.subtotals ∧ s.kind = .other := by
    obtain ⟨hmem, hkind⟩ := mem_subtotalsOf_iff.mp hs
    obtain ⟨hholds, hother⟩ :=
      (hr.holdsTag_iff hsubtotal htotal).mp ((Grid.mem_tags_iff htags).mp hmem)
    exact ⟨hr.mem_subtotals.mpr ⟨hholds, hkind⟩, hkind.trans (hother s.column rfl)⟩
  have htotals (t : Total) (ht : t ∈ totalsOf kinds tags) : t.kind = .other := by
    obtain ⟨hmem, hkind⟩ := mem_totalsOf_iff.mp ht
    obtain ⟨-, hother⟩ :=
      (hr.holdsTag_iff hsubtotal htotal).mp ((Grid.mem_tags_iff htags).mp hmem)
    exact hkind.trans (hother t.column rfl)
  have hclear : Subtotal.ambiguity? (subtotalsOf kinds tags) = none := by
    rw [Subtotal.ambiguity?_eq_none_iff (pairwise_subtotalsOf (Grid.pairwise_tags htags))]
    exact fun a ha b hb => clear_of_resolve h a (hsubtotals a ha).1 b (hsubtotals b hb).1
  rcases resolve_cases extent htags hclear with ⟨⟨g'', r'⟩, hagain⟩ | ⟨error, -, herror⟩
  · have hr' := resolve_eq_ok hagain
    have hnone : r'.writes = [] := by
      rw [List.eq_nil_iff_forall_not_mem]
      rintro ⟨c, v⟩ hw
      obtain ⟨⟨column, ⟨tag, hholds, hcolumn⟩, hkind⟩, -⟩ := hr'.mem_writes_iff.mp hw
      exact hkind (((hr.holdsTag_iff hsubtotal htotal).mp hholds).2 column hcolumn)
    have hgrid : g'' = g' := by
      rw [hr'.grid, hnone]
      rfl
    exact ⟨r', hgrid ▸ hagain, hnone⟩
  · rcases herror with ⟨t, ht, herror⟩ | ⟨s, hs, herror⟩
    · simp [plainTotal?, htotals t ht] at herror
    · simp [subtotalValue?, (hsubtotals s hs).2] at herror

/-- What a resolution tells of a grid `g`, and what it leaves in `g'`. -/
structure ReplacesOnce (g : Grid) (kinds : ColumnKinds) (g' : Grid) (r : Resolution) : Prop where
  mem_subtotals_iff : ∀ s, s ∈ r.subtotals ↔
    g.HoldsTag s.cell (.subtotal s.size s.column) ∧ s.kind = kinds.classify s.column
  mem_totals_iff : ∀ t, t ∈ r.totals ↔
    g.HoldsTag t.cell (.total t.column) ∧ t.kind = kinds.classify t.column
  pairwise_subtotals : r.subtotals.Pairwise fun a b => a.cell.index < b.cell.index
  pairwise_totals : r.totals.Pairwise fun a b => a.cell.index < b.cell.index
  nodup_cells : (r.subtotals.map (·.cell) ++ r.totals.map (·.cell)).Nodup
  nodup_writes : (r.writes.map Prod.fst).Nodup
  mem_writes_iff : ∀ c v, (c, v) ∈ r.writes ↔
    (∃ column, g.HoldsAggregate c column ∧ kinds.classify column ≠ .other) ∧ g'.get c = v
  get_of_notMem_writes : ∀ c, c ∉ r.writes.map Prod.fst → g'.get c = g.get c

/-- Resolving in place lists each subtotal and each total once, row by row, and tells each aggregate
whose column has a kind once as written, with the value that is left in its cell; no other cell
changes. If labels are no markup, resolving in place again succeeds, writes nothing and leaves the
grid as it is. Where resolving in place fails, it leaves the grid as it was. -/
theorem replaces_each_aggregate_once (hsubtotal : Tag.isMarkup kinds.subtotalLabel = false)
    (htotal : Tag.isMarkup kinds.totalLabel = false) (g : Grid) (extent : Extent) :
    (∀ g' r, (resolveIn extent kinds).run.run g = (.ok r, g') →
      ReplacesOnce g kinds g' r ∧
        ∃ r', (resolveIn extent kinds).run.run g' = (.ok r', g') ∧ r'.writes = []) ∧
    (∀ g' error, (resolveIn extent kinds).run.run g = (.error error, g') → g' = g) := by
  refine ⟨fun g' r h => ?_, fun g' error h => eq_of_run_resolveIn_eq_error h⟩
  rw [run_resolveIn_eq_ok_iff] at h
  have hr := resolve_eq_ok h
  refine ⟨⟨fun s => hr.mem_subtotals, fun t => hr.mem_totals, hr.pairwise_subtotals,
    pairwise_totals h, ?_, nodup_writes h, fun c v => hr.mem_writes_iff,
    fun c hc => hr.get_of_notMem_writes hc⟩, ?_⟩
  · refine List.nodup_append.mpr ⟨Cell.nodup_of_pairwise_index
      (List.pairwise_map.mpr hr.pairwise_subtotals),
      Cell.nodup_of_pairwise_index (List.pairwise_map.mpr (pairwise_totals h)), ?_⟩
    intro c hc c' hc' heq
    obtain ⟨s, hs, rfl⟩ := List.mem_map.mp hc
    obtain ⟨t, ht, rfl⟩ := List.mem_map.mp hc'
    exact hr.total_ne_subtotal ht hs heq.symm
  · obtain ⟨r', hagain, hnone⟩ := resolve_of_resolve hsubtotal htotal h
    exact ⟨r', run_resolveIn_eq_ok_iff.mpr hagain, hnone⟩

/-- A grid with a subtotal and a total that are replaced and a total that is kept, as its column has
no kind. -/
theorem replaces_each_aggregate_once_beside_kept :
    let cell := SmallReport.cell
    let g : Grid := .ofList [(cell 0 1, .text "7"),
      (cell 1 1, .text "<subtotal_1_Ad server clicks>"), (cell 3 0, .text "<total_Notes>"),
      (cell 3 1, .text "<total_Ad server clicks>")]
    let extent : Extent := ⟨cell 0 0, cell 4 1⟩
    let r : Resolution := ⟨[⟨cell 1 1, 1, "Ad server clicks", .count⟩],
      [⟨cell 3 0, "Notes", .other⟩, ⟨cell 3 1, "Ad server clicks", .count⟩],
      [(cell 3 1, .formula "=B2"), (cell 1 1, .formula "=SUM(B1:B1)")]⟩
    Tag.isMarkup ({} : ColumnKinds).subtotalLabel = false ∧
      Tag.isMarkup ({} : ColumnKinds).totalLabel = false ∧
      (resolveIn extent {}).run.run g = (.ok r, g.setAll r.writes) ∧
      ReplacesOnce g {} (g.setAll r.writes) r ∧
      ∃ r', (resolveIn extent {}).run.run (g.setAll r.writes) = (.ok r', g.setAll r.writes) ∧
        r'.writes = [] := by
  intro cell g extent r
  have htags : g.tags = .ok [(cell 1 1, .subtotal 1 "Ad server clicks"),
      (cell 3 0, .total "Notes"), (cell 3 1, .total "Ad server clicks")] :=
    eq_ok_of_toOption (by decide +kernel)
  have hclear : Subtotal.ambiguity? (subtotalsOf {} [(cell 1 1, .subtotal 1 "Ad server clicks"),
      (cell 3 0, .total "Notes"), (cell 3 1, .total "Ad server clicks")]) = none := by
    simp [subtotalsOf, Subtotal.ambiguity?, Subtotal.firstClash?]
  have hgrid : ofGrid g extent {} = .ok r := by
    rw [ofGrid_eq extent htags hclear]
    exact eq_ok_of_toOption (by decide +kernel)
  have hrun : (resolveIn extent {}).run.run g = (.ok r, g.setAll r.writes) := by
    rw [run_resolveIn_eq_ok_iff, resolve, hgrid]
    rfl
  have hsubtotal : Tag.isMarkup ({} : ColumnKinds).subtotalLabel = false := by decide
  have htotal : Tag.isMarkup ({} : ColumnKinds).totalLabel = false := by decide
  have honce := (replaces_each_aggregate_once hsubtotal htotal g extent).1 _ r hrun
  exact ⟨hsubtotal, htotal, hrun, honce⟩

end Resolution

end SheetReport
