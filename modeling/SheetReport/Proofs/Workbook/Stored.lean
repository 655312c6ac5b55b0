import SheetReport.Proofs.Sequence
import SheetReport.Workbook.Report

/-!
# Which values a stored report shows

A cell outside of all merged ranges is stored with its own value, and a merged range with the
value of its first cell. So a cell keeps its value exactly where it is the first one of every
range that contains it, and this is all that is needed: ranges may lie anywhere else.

Main statement: `StoredSheet.contentAt_of_ofReport?`.
-/

namespace SheetReport

namespace OrderedMap

variable {κ ν : Type} [Ord κ] [Std.TransOrd κ]

/-- In the map of a reversed list, the first entry of a key counts. -/
theorem get?_ofList_reverse (l : List (κ × ν)) (k : κ) :
    (ofList l.reverse).get? k = lookup k l := by
  induction l with
  | nil => rfl
  | cons e rest ih =>
    have hinsert : ofList (e :: rest).reverse = (ofList rest.reverse).insert e.1 e.2 := by
      rw [ofList, List.reverse_cons, List.foldl_append]
      rfl
    rw [hinsert, get?_insert, ih, lookup]

variable [Std.LawfulEqOrd κ]

omit [Std.TransOrd κ] in
/-- What a lookup finds is an entry. -/
theorem mem_of_lookup {l : List (κ × ν)} {k : κ} {v : ν} (h : lookup k l = some v) :
    (k, v) ∈ l := by
  induction l with
  | nil => simp [lookup] at h
  | cons e rest ih =>
    rw [lookup] at h
    split at h
    · rename_i heq
      obtain rfl := Option.some.inj h
      obtain rfl := Std.LawfulEqOrd.eq_of_compare heq
      exact List.mem_cons_self
    · exact List.mem_cons_of_mem _ (ih h)

omit [Std.LawfulEqOrd κ] in
/-- A lookup finds something where there is an entry. -/
theorem lookup_ne_none_of_mem {l : List (κ × ν)} {k : κ} {v : ν} (h : (k, v) ∈ l) :
    lookup k l ≠ none := by
  induction l with
  | nil => contradiction
  | cons e rest ih =>
    rw [lookup]
    split
    · simp
    · rename_i hne
      rcases List.mem_cons.mp h with rfl | hrest
      · exact absurd Std.ReflCmp.compare_self hne
      · exact ih hrest

/-- The keys of the map of a list are those of its entries. -/
theorem mem_keys_ofList_of_mem {l : List (κ × ν)} {k : κ} {v : ν} (h : (k, v) ∈ l) :
    k ∈ (ofList l).keys := by
  have hlookup := lookup_ne_none_of_mem (List.mem_reverse.mpr h)
  rw [← get?_ofList_reverse, List.reverse_reverse] at hlookup
  obtain ⟨v', hv'⟩ := Option.ne_none_iff_exists'.mp hlookup
  exact List.mem_map_of_mem (get?_eq_some_iff.mp hv')

end OrderedMap

/-- What a value is stored as. -/
def Value.content : Value → Content
  | .empty => .blank
  | .text s => if s = "" then .blank else StoredSheet.textContent s
  | .number x => if Number.kind x = .nan then .text "#NUM!" else .number x
  | .bool b => .bool b
  | .date d => .number d.serial
  | .dateTime t => .number t.serial
  | .formula s => .formula (StoredFormula.stored s) (some (0 : Float))

namespace StoredSheet

/-- What a stored sheet holds in a cell. -/
def contentAt (s : StoredSheet) (c : Cell) : Content :=
  ((s.cells.get? c).map StoredCell.content).getD .blank

/-- A value that is written to a blank cell is its content. -/
theorem content_of_writeValue? {cell stored : StoredCell} {v : Value}
    (h : writeValue? cell v = some stored) (hblank : cell.content = .blank) :
    stored.content = v.content := by
  cases v with
  | empty =>
    obtain rfl := Option.some.inj h
    exact hblank
  | text s =>
    simp only [writeValue?, Value.content] at h ⊢
    split at h
    · rename_i hempty
      obtain rfl := Option.some.inj h
      rw [if_pos hempty, hblank]
    · rename_i hnonempty
      split at h
      · contradiction
      · obtain rfl := Option.some.inj h
        rw [if_neg hnonempty]
  | number x =>
    simp only [writeValue?, Value.content] at h ⊢
    split at h
    · rename_i hnan
      obtain rfl := Option.some.inj h
      rw [if_pos hnan]
    · rename_i hnumber
      obtain rfl := Option.some.inj h
      rw [if_neg hnumber]
  | formula s =>
    simp only [writeValue?] at h
    split at h
    · obtain rfl := Option.some.inj h
      rfl
    · obtain rfl := Option.some.inj h
      rfl
  | _ =>
    obtain rfl := Option.some.inj h
    rfl

/-- Renumbering the format of a cell leaves its content. -/
theorem content_renumber (codes : List String) (c : StoredCell) :
    (renumber codes c).content = c.content := by
  unfold renumber
  split
  · split <;> rfl
  · rfl

/-- If all that is written to a cell has one content, and something is written unless that is
blank, the cell is stored with it. -/
theorem getD_storedCells {cells : List (Cell × StoredCell)} {c : Cell} {content : Content}
    (hall : ∀ stored, (c, stored) ∈ cells → stored.content = content)
    (hex : content ≠ .blank → ∃ stored, (c, stored) ∈ cells) :
    (((storedCells cells).get? c).map StoredCell.content).getD .blank = content := by
  rw [storedCells, OrderedMap.get?_ofList_reverse]
  cases hlookup : OrderedMap.lookup c ((cells.filter fun c => isShown c.2).map fun e =>
      (e.1, renumber (customCodes cells) e.2)) with
  | none =>
    refine Classical.byContradiction fun hne => ?_
    obtain ⟨stored, hmem⟩ := hex (Ne.symm hne)
    have hshown : isShown stored = true := by
      have hcontent : stored.content ≠ .blank := hall stored hmem ▸ Ne.symm hne
      simp [isShown, hcontent]
    have hstored : (c, renumber (customCodes cells) stored) ∈
        (cells.filter fun c => isShown c.2).map fun e =>
          (e.1, renumber (customCodes cells) e.2) :=
      List.mem_map.mpr ⟨(c, stored), List.mem_filter.mpr ⟨hmem, hshown⟩, rfl⟩
    exact OrderedMap.lookup_ne_none_of_mem hstored hlookup
  | some stored =>
    obtain ⟨e, he, heq⟩ := List.mem_map.mp (OrderedMap.mem_of_lookup hlookup)
    obtain ⟨rfl, rfl⟩ := Prod.mk.inj heq
    have hcontent := hall e.2 (List.mem_filter.mp he).1
    simpa [content_renumber] using hcontent

variable {g : Grid} {p : StylePlan} {c : Cell}

/-- Single cells are written with their values. -/
theorem content_of_single? {c' : Cell} {stored : StoredCell}
    (h : single? g p c = some (c', stored)) : c' = c ∧ stored.content = (g.get c).content := by
  unfold single? at h
  split at h
  · obtain ⟨stored', hwrite, heq⟩ := Option.map_eq_some_iff.mp h
    obtain ⟨rfl, rfl⟩ := Prod.mk.inj heq
    exact ⟨rfl, content_of_writeValue? hwrite rfl⟩
  · contradiction

/-- The first cell of a merged range is written with its value. -/
theorem content_of_merged? {m : Extent} {cells : List (Cell × StoredCell)} {stored : StoredCell}
    (h : merged? g p m = some cells) (hmem : (c, stored) ∈ cells) :
    m.contains c = true ∧ (m.first = c → stored.content = (g.get c).content) := by
  obtain ⟨first, hwrite, rfl⟩ := Option.map_eq_some_iff.mp h
  obtain ⟨c', hc', heq⟩ := List.mem_map.mp hmem
  obtain ⟨rfl, rfl⟩ := Prod.mk.inj heq
  refine ⟨Extent.mem_cells.mp hc', fun hfirst => ?_⟩
  rw [if_pos hfirst.symm, content_of_writeValue? hwrite rfl, hfirst]

/-- A merged range writes to each of its cells. -/
theorem exists_mem_of_merged? {m : Extent} {cells : List (Cell × StoredCell)}
    (h : merged? g p m = some cells) (hcontains : m.contains c = true) :
    ∃ stored, (c, stored) ∈ cells := by
  obtain ⟨first, -, rfl⟩ := Option.map_eq_some_iff.mp h
  exact ⟨_, List.mem_map_of_mem (Extent.mem_cells.mpr hcontains)⟩

/-- An occupied cell outside of all merged ranges is written by itself. -/
theorem mem_singleCells (hget : g.get c ≠ .empty) (hmerges : ∀ m ∈ p.merges, m.contains c = false) :
    c ∈ singleCells g p := by
  have hentry : c ∈ g.entries.map Prod.fst :=
    List.mem_map_of_mem (Grid.mem_entries.mpr ⟨rfl, hget⟩)
  have hkey : (c, ()) ∈ (p.base.keys ++ p.styles.keys ++ g.entries.map Prod.fst).map
      fun c => (c, ()) :=
    List.mem_map_of_mem (List.mem_append_right _ hentry)
  refine List.mem_filter.mpr ⟨OrderedMap.mem_keys_ofList_of_mem hkey, ?_⟩
  rw [Option.isNone_iff_eq_none, StylePlan.mergeAt?, List.find?_eq_none]
  exact fun m hm => by simp [hmerges m hm]

/-- A stored report shows the value of every cell that is the first one of all merged ranges that
contain it. -/
theorem contentAt_of_ofReport? {name : String} {isPicture : String → Bool} {sheet : StoredSheet}
    (h : ofReport? name g p isPicture = some sheet)
    (hfirst : ∀ m ∈ p.merges, m.contains c = true → m.first = c) :
    sheet.contentAt c = (g.get c).content := by
  unfold ofReport? at h
  obtain ⟨singles, hsingles, h⟩ := Option.bind_eq_some_iff.mp h
  dsimp only at h
  split at h
  · obtain ⟨merged, hmerged, h⟩ := Option.bind_eq_some_iff.mp h
    obtain rfl := Option.some.inj h
    refine getD_storedCells (fun stored hmem => ?_) fun hcontent => ?_
    · rcases List.mem_append.mp hmem with hsingle | hrange
      · obtain ⟨c', -, hc'⟩ := (mem_of_mapM_eq_some hsingles _).mp hsingle
        obtain ⟨rfl, hstored⟩ := content_of_single? hc'
        exact hstored
      · obtain ⟨cells, hcells, hin⟩ := List.mem_flatten.mp hrange
        obtain ⟨m, hm, hwrite⟩ := (mem_of_mapM_eq_some hmerged _).mp hcells
        obtain ⟨hcontains, hstored⟩ := content_of_merged? hwrite hin
        exact hstored (hfirst m hm hcontains)
    · have hget : g.get c ≠ .empty := fun hempty => hcontent (by rw [hempty]; rfl)
      by_cases hmerges : ∀ m ∈ p.merges, m.contains c = false
      · obtain ⟨⟨c', stored⟩, hmem, hsingle⟩ :=
          exists_mem_of_mapM_eq_some hsingles (mem_singleCells hget hmerges)
        obtain ⟨rfl, -⟩ := content_of_single? hsingle
        exact ⟨stored, List.mem_append_left _ hmem⟩
      · simp only [Classical.not_forall, Bool.not_eq_false] at hmerges
        obtain ⟨m, hm, hcontains⟩ := hmerges
        obtain ⟨cells, hcells, hwrite⟩ := exists_mem_of_mapM_eq_some hmerged hm
        obtain ⟨stored, hmem⟩ := exists_mem_of_merged? hwrite hcontains
        exact ⟨stored, List.mem_append_right _ (List.mem_flatten.mpr ⟨cells, hcells, hmem⟩)⟩
  · contradiction

end StoredSheet

end SheetReport
