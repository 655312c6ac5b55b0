import SheetReport.Proofs.Sheet.Printing
import SheetReport.Proofs.Sheet.Writing
import SheetReport.Report.Markup

/-!
# What filling and clearing leave in a grid

A placeholder goes to the first cell that holds its anchor, row by row, and no other cells are
changed. A value that is no markup is not taken for another anchor, so filling one placeholder does
not move another, and the order of names does not matter. Clearing looks at each cell by itself.

Main statements: `get_fillList_of_isFirstAnchor`, `get_fillList_of_not_isFirstAnchor` and
`get_strip`.
-/

namespace SheetReport

namespace Tag

/-- The text of an anchor is markup. -/
theorem isMarkup_text_anchor {name : String} (h : isAnchorName name = true) :
    isMarkup (anchor name).text = true := isMarkup_of_looksLikeTag (looksLikeTag_text_anchor h)

/-- Anchors of different names have different texts. -/
theorem anchor_text_injective {name name' : String} (h : (anchor name).text = (anchor name').text) :
    name = name' := String.toList_inj.mp (innerChars_eq_of_text_eq h)

end Tag

/-- What is no markup is not the text of an anchor. -/
theorem Value.ne_anchor_of_not_isMarkup {v : Value} {name : String} (hv : v.isMarkup = false)
    (hname : Tag.isAnchorName name = true) : v ≠ .text (Tag.anchor name).text := by
  intro heq
  subst heq
  exact Bool.eq_false_iff.mp hv (Tag.isMarkup_text_anchor hname)

namespace Grid

/-- Whether a cell is the first that holds the anchor of a name. -/
def IsFirstAnchor (g : Grid) (name : String) (c : Cell) : Prop :=
  g.get c = .text (Tag.anchor name).text ∧
    ∀ c', g.get c' = .text (Tag.anchor name).text → c.index ≤ c'.index

/-- A name has one first anchor at most. -/
theorem IsFirstAnchor.unique {g : Grid} {name : String} {c c' : Cell}
    (h : g.IsFirstAnchor name c) (h' : g.IsFirstAnchor name c') : c = c' :=
  Cell.index_injective (Nat.le_antisymm (h.2 c' h'.1) (h'.2 c h.1))

/-- An anchor that is found is the first. -/
theorem isFirstAnchor_of_findAnchor? {g : Grid} {name : String} {c : Cell}
    (h : g.findAnchor? name = some c) : g.IsFirstAnchor name c := by
  obtain ⟨⟨c, v⟩, he, rfl⟩ := Option.map_eq_some_iff.mp h
  obtain ⟨htest, before, after, hsplit, hbefore⟩ := List.find?_eq_some_iff_append.mp he
  have hmem : (c, v) ∈ g.entries := List.mem_of_find?_eq_some he
  have htext (v : Value) :
      (v.text? == some (Tag.anchor name).text) = true ↔ v = .text (Tag.anchor name).text := by
    rw [beq_iff_eq]
    cases v <;> simp [Value.text?]
  refine ⟨(mem_entries.mp hmem).1.trans ((htext v).mp htest), fun c' hc' => ?_⟩
  have hmem' : (c', Value.text (Tag.anchor name).text) ∈ g.entries :=
    mem_entries.mpr ⟨hc', by simp⟩
  have hrows := g.pairwise_entries
  rw [hsplit] at hmem' hrows
  rcases List.mem_append.mp hmem' with hbad | hrest
  · have hnot := hbefore _ hbad
    rw [(htext (.text (Tag.anchor name).text)).mpr rfl] at hnot
    contradiction
  · rcases List.mem_cons.mp hrest with heq | hafter
    · have hsame : c'.index = c.index := congrArg Cell.index (Prod.mk.inj heq).1
      exact Nat.le_of_eq hsame.symm
    · have hsecond := (List.pairwise_append.mp hrows).2.1
      have hlt := (List.pairwise_cons.mp hsecond).1 _ hafter
      dsimp only at hlt ⊢
      exact Nat.le_of_lt hlt

/-- An anchor is found exactly when some cell holds it. -/
theorem exists_findAnchor?_iff {g : Grid} {name : String} :
    (∃ c, g.findAnchor? name = some c) ↔ ∃ c, g.get c = .text (Tag.anchor name).text := by
  constructor
  · intro hex
    obtain ⟨c, hc⟩ := hex
    exact ⟨c, (isFirstAnchor_of_findAnchor? hc).1⟩
  · intro hex
    obtain ⟨c, hc⟩ := hex
    cases hfind : g.findAnchor? name with
    | some c' => exact ⟨c', rfl⟩
    | none =>
      have hnone := List.find?_eq_none.mp (Option.map_eq_none_iff.mp hfind)
        (c, .text (Tag.anchor name).text) (mem_entries.mpr ⟨hc, by simp⟩)
      simp [Value.text?] at hnone

/-- The cell that is found is the first anchor. -/
theorem findAnchor?_eq_some_iff {g : Grid} {name : String} {c : Cell} :
    g.findAnchor? name = some c ↔ g.IsFirstAnchor name c := by
  refine ⟨isFirstAnchor_of_findAnchor?, fun h => ?_⟩
  obtain ⟨c', hc'⟩ := exists_findAnchor?_iff.mpr ⟨c, h.1⟩
  rw [hc', (isFirstAnchor_of_findAnchor? hc').unique h]

/-- The structural anchors are found exactly when each of them is in the grid. -/
theorem exists_anchors_iff {g : Grid} :
    (∃ anchors, g.anchors = .ok anchors) ↔
      ∀ name ∈ Tag.structural, ∃ c, g.get c = .text (Tag.anchor name).text := by
  simp only [← exists_findAnchor?_iff, Tag.structural, List.forall_mem_cons, List.not_mem_nil,
    false_implies, implies_true, and_true]
  unfold anchors
  constructor
  · intro hex
    obtain ⟨found, h⟩ := hex
    split at h
    · rename_i dataStart dataEnd headerStart hstart hend hheader
      exact ⟨⟨dataStart, hstart⟩, ⟨dataEnd, hend⟩, headerStart, hheader⟩
    · contradiction
  · intro hex
    obtain ⟨⟨dataStart, hstart⟩, ⟨dataEnd, hend⟩, headerStart, hheader⟩ := hex
    exact ⟨⟨dataStart, dataEnd, headerStart⟩, by rw [hstart, hend, hheader]⟩

/-- Missing anchors are reported by their names. -/
theorem exists_eq_missingAnchor_of_anchors {g : Grid} {error : ReportError}
    (h : g.anchors = .error error) : ∃ names, error = .missingAnchor names := by
  unfold anchors at h
  split at h
  · contradiction
  · exact ⟨_, (Except.error.inj h).symm⟩

end Grid

namespace Markup

variable {g : Grid}

/-- A cell that does not hold the anchor of a name keeps its value when the name is filled. -/
theorem get_fillOne_of_ne {name : String} {value : Value} {c : Cell}
    (h : name ∉ Tag.structural → ¬ g.IsFirstAnchor name c) :
    (fillOne g name value).1.get c = g.get c := by
  unfold fillOne
  split
  · rfl
  · rename_i hstructural
    have hnot := h (by simpa using hstructural)
    split
    · rename_i cell hfind
      rw [Grid.get_set, if_neg]
      intro heq
      subst heq
      exact hnot (Grid.findAnchor?_eq_some_iff.mp hfind)
    · rfl

/-- The first anchor of a name takes the value given for it. -/
theorem get_fillOne_of_isFirstAnchor {name : String} {value : Value} {c : Cell}
    (hstructural : name ∉ Tag.structural) (h : g.IsFirstAnchor name c) :
    (fillOne g name value).1.get c = value := by
  have hfind := Grid.findAnchor?_eq_some_iff.mpr h
  simp [fillOne, hstructural, hfind, Grid.get_set]

/-- After a name is filled, the anchor of another name is where it was, and where the value is
that anchor. -/
theorem get_fillOne_eq_anchor_iff {name other : String} {value : Value} {c : Cell}
    (hne : name ≠ other) :
    (fillOne g name value).1.get c = .text (Tag.anchor other).text ↔
      g.get c = .text (Tag.anchor other).text ∨
        name ∉ Tag.structural ∧ g.IsFirstAnchor name c ∧
          value = .text (Tag.anchor other).text := by
  by_cases hfirst : name ∉ Tag.structural ∧ g.IsFirstAnchor name c
  · have hold : g.get c ≠ .text (Tag.anchor other).text := by
      rw [hfirst.2.1, ne_eq, Value.text.injEq]
      exact fun heq => hne (Tag.anchor_text_injective heq)
    rw [get_fillOne_of_isFirstAnchor hfirst.1 hfirst.2]
    simp [hold, hfirst.1, hfirst.2]
  · rw [get_fillOne_of_ne fun hstructural h => hfirst ⟨hstructural, h⟩]
    refine ⟨.inl, ?_⟩
    rintro (hold | ⟨hstructural, h, -⟩)
    · exact hold
    · exact absurd ⟨hstructural, h⟩ hfirst

/-- A first anchor after a name is filled was one before, or is where the name was filled. -/
theorem isFirstAnchor_of_fillOne {name other : String} {value : Value} {c : Cell}
    (hne : name ≠ other) (h : (fillOne g name value).1.IsFirstAnchor other c) :
    g.IsFirstAnchor other c ∨ name ∉ Tag.structural ∧ g.IsFirstAnchor name c := by
  rcases (get_fillOne_eq_anchor_iff hne).mp h.1 with hold | ⟨hstructural, hfirst, -⟩
  · exact .inl ⟨hold, fun c' hc' => h.2 c' ((get_fillOne_eq_anchor_iff hne).mpr (.inl hc'))⟩
  · exact .inr ⟨hstructural, hfirst⟩

/-- Filling one name moves no other anchor, as its value is not taken for one. -/
theorem isFirstAnchor_fillOne_iff {name other : String} {value : Value} {c : Cell}
    (hne : name ≠ other) (hvalue : value ≠ .text (Tag.anchor other).text) :
    (fillOne g name value).1.IsFirstAnchor other c ↔ g.IsFirstAnchor other c := by
  unfold Grid.IsFirstAnchor
  simp only [get_fillOne_eq_anchor_iff hne, hvalue, and_false, or_false]

/-- A cell without any of the anchors keeps its value, whatever values are filled in. -/
theorem get_fillList_of_ne {entries : List (String × Value)} {c : Cell}
    (h : ∀ e ∈ entries, g.get c ≠ .text (Tag.anchor e.1).text) :
    (fillList g entries).1.get c = g.get c := by
  induction entries generalizing g with
  | nil => rfl
  | cons e rest ih =>
    obtain ⟨name, value⟩ := e
    obtain ⟨hhead, hrest⟩ := List.forall_mem_cons.mp h
    have hone : (fillOne g name value).1.get c = g.get c :=
      get_fillOne_of_ne fun _ hfirst => hhead hfirst.1
    change (fillList (fillOne g name value).1 rest).1.get c = g.get c
    rw [ih (by rw [hone]; exact hrest), hone]

/-- The first anchor of each name takes its value. -/
theorem get_fillList_of_isFirstAnchor {entries : List (String × Value)}
    (hnodup : (entries.map Prod.fst).Nodup)
    (hvalues : ∀ e ∈ entries, ∀ e' ∈ entries, e.2 ≠ .text (Tag.anchor e'.1).text)
    {name : String} {value : Value} {c : Cell} (hmem : (name, value) ∈ entries)
    (hstructural : name ∉ Tag.structural) (hfirst : g.IsFirstAnchor name c) :
    (fillList g entries).1.get c = value := by
  induction entries generalizing g with
  | nil => contradiction
  | cons e rest ih =>
    obtain ⟨hnew, hnodup⟩ := List.nodup_cons.mp hnodup
    change (fillList (fillOne g e.1 e.2).1 rest).1.get c = value
    rcases List.mem_cons.mp hmem with rfl | hmem
    · have hone : (fillOne g name value).1.get c = value :=
        get_fillOne_of_isFirstAnchor hstructural hfirst
      rw [get_fillList_of_ne, hone]
      intro e' he'
      rw [hone]
      exact hvalues _ List.mem_cons_self e' (List.mem_cons_of_mem _ he')
    · have hne : e.1 ≠ name := fun heq =>
        hnew (heq ▸ List.mem_map_of_mem hmem)
      have hvalue : e.2 ≠ .text (Tag.anchor name).text :=
        hvalues e List.mem_cons_self (name, value) (List.mem_cons_of_mem _ hmem)
      refine ih hnodup (fun e' he' e'' he'' => hvalues e' (List.mem_cons_of_mem _ he') e''
        (List.mem_cons_of_mem _ he'')) hmem ?_
      exact (isFirstAnchor_fillOne_iff hne hvalue).mpr hfirst

/-- A cell that is not the first anchor of any name keeps its value, whatever values are filled
in. -/
theorem get_fillList_of_not_isFirstAnchor {entries : List (String × Value)} {c : Cell}
    (hnodup : (entries.map Prod.fst).Nodup)
    (h : ∀ e ∈ entries, e.1 ∉ Tag.structural → ¬ g.IsFirstAnchor e.1 c) :
    (fillList g entries).1.get c = g.get c := by
  induction entries generalizing g with
  | nil => rfl
  | cons e rest ih =>
    obtain ⟨hnew, hnodup⟩ := List.nodup_cons.mp hnodup
    obtain ⟨hhead, hrest⟩ := List.forall_mem_cons.mp h
    change (fillList (fillOne g e.1 e.2).1 rest).1.get c = g.get c
    rw [ih hnodup, get_fillOne_of_ne hhead]
    intro e' he' hstructural hfirst
    have hne : e.1 ≠ e'.1 := fun heq => hnew (heq ▸ List.mem_map_of_mem he')
    rcases isFirstAnchor_of_fillOne hne hfirst with hold | ⟨hown, hplace⟩
    · exact hrest e' he' hstructural hold
    · exact hhead hown hplace

/-- Clearing listed cells empties them and leaves the others. -/
theorem get_foldl_clear {cells : List (Cell × String)} {c : Cell} :
    (cells.foldl (fun g e => g.clear e.1) g).get c =
      if c ∈ cells.map Prod.fst then .empty else g.get c := by
  induction cells generalizing g with
  | nil => rfl
  | cons e rest ih =>
    rw [List.foldl_cons, ih, List.map_cons, Grid.get_clear]
    by_cases hrest : c ∈ rest.map Prod.fst
    · simp [hrest]
    · simp [hrest]

/-- Clearing empties the cells that print like a tag and leaves the others. -/
theorem get_strip (c : Cell) :
    (strip g).1.get c =
      if Tag.looksLikeTag (g.get c).print = true then .empty else g.get c := by
  have hmem : c ∈ (remaining g).map Prod.fst ↔ Tag.looksLikeTag (g.get c).print = true := by
    simp only [remaining, List.map_map, List.mem_map, List.mem_filter, Function.comp_apply]
    constructor
    · intro hex
      obtain ⟨e, ⟨he, hlooks⟩, rfl⟩ := hex
      rwa [(Grid.mem_entries.mp he).1]
    · intro hlooks
      have hne : g.get c ≠ .empty := by
        intro hempty
        rw [hempty] at hlooks
        contradiction
      exact ⟨(c, g.get c), ⟨Grid.mem_entries.mpr ⟨rfl, hne⟩, hlooks⟩, rfl⟩
  change ((remaining g).foldl (fun g e => g.clear e.1) g).get c = _
  rw [get_foldl_clear]
  simp only [hmem]

end Markup

end SheetReport
