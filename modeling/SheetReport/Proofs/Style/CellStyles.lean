import SheetReport.Proofs.Style.Merging
import SheetReport.Proofs.Tag.Codec

/-!
# The styles that the stages of a plan leave

Each stage of a plan changes the style of a cell without looking at other cells, and a change made
twice is the change made once. So the style of a cell is what the stages that name it make of the
empty style: bold for what was written, the mark of a cleared tag, the date format, and the edges of
the report. Merging leaves styles alone, and the block of the order adds a border and a rotation in
its own column only.

Main statements: `styleOf_styled`, `orderBlock_cases` and `exists_styleOf_build`.
-/

namespace SheetReport

namespace StylePlan

variable {p : StylePlan} {c d bottom : Cell} {rules : StyleRules} {extent e : Extent}
  {g : Grid} {o : Outcome} {formats : SheetFormats}

/-- Changing the style of a cell changes no other style. -/
theorem styleOf_modify (change : CellStyle → CellStyle) :
    (p.modify d change).styleOf c = if c = d then change (p.styleOf c) else p.styleOf c := by
  unfold modify
  by_cases h : c = d
  · subst h
    rw [if_pos rfl, styleOf, OrderedMap.get?_insert_self]
    rfl
  · rw [if_neg h, styleOf, OrderedMap.get?_insert_of_ne _ _ h]
    rfl

/-- A change that is the same when it is made again is made once to each cell listed. -/
theorem styleOf_modifyAll {cells : List Cell} {change : Cell → CellStyle → CellStyle}
    (hchange : ∀ s, change c (change c s) = change c s) :
    (p.modifyAll cells change).styleOf c =
      if c ∈ cells then change c (p.styleOf c) else p.styleOf c := by
  induction cells generalizing p with
  | nil => rfl
  | cons d rest ih =>
    change ((p.modify d (change d)).modifyAll rest change).styleOf c = _
    rw [ih, styleOf_modify]
    by_cases hd : c = d
    · subst hd
      simp [hchange]
    · simp [hd]

/-- A border adds to each cell of a rectangle the edges that it lies on. -/
theorem styleOf_outline : (p.outline e).styleOf c =
    if e.contains c = true then
      { p.styleOf c with border := (p.styleOf c).border.combine (edgesIn e c) }
    else p.styleOf c := by
  rw [outline, styleOf_modifyAll]
  · simp only [Extent.mem_cells]
  · intro s
    simp [Edges.combine]

/-- The style of a cell whose tag was cleared: the mark of the closing row is bold and filled, the
place of the picture is as it was, and what else stands in the report is bold. -/
def clearedStyle (rules : StyleRules) (extent : Extent) (e : Cell × String) (s : CellStyle) :
    CellStyle :=
  let plain := if extent.contains e.1 then { s with bold := true } else s
  match Tag.read e.2 with
  | .ok (some (.decorative name)) =>
    if name = Tag.totalBar then { s with bold := true, fill := some rules.totalBarFill } else plain
  | .ok (some (.anchor name)) => if name = rules.iconPlaceholder then s else plain
  | _ => plain

/-- A cleared tag changes the style of its own cell. -/
theorem styleOf_markStripped (tag : Cell × String) :
    (markStripped rules extent p tag).styleOf c =
      if c = tag.1 then clearedStyle rules extent tag (p.styleOf c) else p.styleOf c := by
  have hplain : (if extent.contains tag.1 then p.modify tag.1 (bold tag.1) else p).styleOf c =
      if c = tag.1 then
        if extent.contains tag.1 then { p.styleOf c with bold := true } else p.styleOf c
      else p.styleOf c := by
    split
    · exact styleOf_modify (bold tag.1)
    · exact (ite_self _).symm
  unfold markStripped clearedStyle
  rcases Tag.read tag.2 with error | tag?
  · exact hplain
  · cases tag? with
    | none => exact hplain
    | some read =>
      cases read with
      | anchor name =>
        dsimp only
        split
        · rw [ite_self]
          cases rules.icon <;> rfl
        · exact hplain
      | subtotal size column => exact hplain
      | total column => exact hplain
      | decorative name =>
        dsimp only
        split
        · exact styleOf_modify _
        · exact hplain

/-- Cleared tags change no style of other cells. -/
theorem styleOf_foldl_markStripped_of_notMem {tags : List (Cell × String)}
    (h : c ∉ tags.map Prod.fst) :
    (tags.foldl (markStripped rules extent) p).styleOf c = p.styleOf c := by
  induction tags generalizing p with
  | nil => rfl
  | cons tag rest ih =>
    obtain ⟨htag, hrest⟩ := not_or.mp fun hmem => h (List.mem_cons.mpr hmem)
    rw [List.foldl_cons, ih hrest, styleOf_markStripped, if_neg htag]

/-- Of tags in different cells, each changes the style of its own cell. -/
theorem styleOf_foldl_markStripped {tags : List (Cell × String)}
    (hnodup : (tags.map Prod.fst).Nodup) {text : String} (h : (c, text) ∈ tags) :
    (tags.foldl (markStripped rules extent) p).styleOf c =
      clearedStyle rules extent (c, text) (p.styleOf c) := by
  induction tags generalizing p with
  | nil => contradiction
  | cons tag rest ih =>
    obtain ⟨hnew, hnodup⟩ := List.nodup_cons.mp hnodup
    rw [List.foldl_cons]
    rcases List.mem_cons.mp h with rfl | h
    · rw [styleOf_foldl_markStripped_of_notMem hnew, styleOf_markStripped, if_pos rfl]
    · have hne : c ≠ tag.1 := by
        rintro rfl
        exact hnew (List.mem_map.mpr ⟨_, h, rfl⟩)
      rw [ih hnodup h, styleOf_markStripped, if_neg hne]

/-- A cleared tag is the mark of the closing row, or it leaves the style, or it makes it bold. -/
theorem clearedStyle_cases (tag : Cell × String) (s : CellStyle) :
    tag.2 = (Tag.decorative Tag.totalBar).text ∧
        clearedStyle rules extent tag s =
          { s with bold := true, fill := some rules.totalBarFill } ∨
      clearedStyle rules extent tag s = s ∨
      clearedStyle rules extent tag s = { s with bold := true } := by
  have hplain : (if extent.contains tag.1 then { s with bold := true } else s) = s ∨
      (if extent.contains tag.1 then { s with bold := true } else s) = { s with bold := true } := by
    split
    · exact .inr rfl
    · exact .inl rfl
  unfold clearedStyle
  dsimp only
  split
  · rename_i name hread
    split
    · rename_i hbar
      subst hbar
      -- a text that reads as the mark is the mark: only subtotals are read from several texts
      rcases Tag.text_of_read hread with htext | ⟨_, _, _, -, -, -, htag, -⟩
      · exact .inl ⟨htext, rfl⟩
      · contradiction
    · exact .inr hplain
  · split
    · exact .inr (.inl rfl)
    · exact .inr hplain
  · exact .inr hplain

/-- The mark of the closing row is bold and filled. -/
theorem clearedStyle_totalBar (s : CellStyle) :
    clearedStyle rules extent (c, (Tag.decorative Tag.totalBar).text) s =
      { s with bold := true, fill := some rules.totalBarFill } := by
  simp only [clearedStyle, Tag.read_text_totalBar, if_pos]

/-- The cleared tag of an aggregate is bold in the report. -/
theorem bold_clearedStyle_of_isAggregate {text : String} {tag : Tag}
    (hcontains : extent.contains c = true) (hread : Tag.read text = .ok (some tag))
    (haggregate : tag.isAggregate = true) (s : CellStyle) :
    (clearedStyle rules extent (c, text) s).bold = true := by
  simp only [clearedStyle, hread, hcontains, if_true]
  cases tag with
  | subtotal size column => rfl
  | total column => rfl
  | anchor name => contradiction
  | decorative name => contradiction

/-- The plan in which what was written and what was cleared is marked. -/
def marked (o : Outcome) (rules : StyleRules) (formats : SheetFormats) : StylePlan :=
  o.stripped.foldl (markStripped rules o.extent)
    ((start rules formats o.extent).modifyAll (o.resolution.writes.map Prod.fst) bold)

/-- What is written is bold. -/
theorem styleOf_written (cells : List Cell) :
    ((start rules formats extent).modifyAll cells bold).styleOf c =
      { bold := decide (c ∈ cells) } := by
  rw [styleOf_modifyAll fun s => rfl]
  split
  · rename_i h
    simp [h, bold, styleOf, start]
  · rename_i h
    simp [h, styleOf, start]

/-- The marks of a cell are those of its cleared tag, if it has one, after those of what was
written. -/
theorem styleOf_marked_cases (rules : StyleRules) (formats : SheetFormats)
    (hnodup : (o.stripped.map Prod.fst).Nodup) (c : Cell) :
    (marked o rules formats).styleOf c =
        { bold := decide (c ∈ o.resolution.writes.map Prod.fst) } ∨
      ∃ text, (c, text) ∈ o.stripped ∧
        (marked o rules formats).styleOf c = clearedStyle rules o.extent (c, text)
          { bold := decide (c ∈ o.resolution.writes.map Prod.fst) } := by
  unfold marked
  by_cases h : c ∈ o.stripped.map Prod.fst
  · obtain ⟨⟨c, text⟩, hmem, rfl⟩ := List.mem_map.mp h
    rw [styleOf_foldl_markStripped hnodup hmem, styleOf_written]
    exact .inr ⟨text, hmem, rfl⟩
  · rw [styleOf_foldl_markStripped_of_notMem h, styleOf_written]
    exact .inl rfl

/-- Marking adds no border, no date and no rotation. -/
theorem exists_styleOf_marked (rules : StyleRules) (formats : SheetFormats)
    (hnodup : (o.stripped.map Prod.fst).Nodup) (c : Cell) :
    ∃ bold fill, (marked o rules formats).styleOf c = { bold := bold, fill := fill } := by
  rcases styleOf_marked_cases rules formats hnodup c with hwritten | ⟨text, -, hcleared⟩
  · exact ⟨_, none, hwritten⟩
  · rw [hcleared]
    rcases clearedStyle_cases (c, text) _ with ⟨-, hfill⟩ | hsame | hbold
    · exact ⟨_, _, hfill⟩
    · exact ⟨_, _, hsame⟩
    · exact ⟨_, _, hbold⟩

/-- What was neither written nor cleared has no marks. -/
theorem styleOf_marked_of_notMem (hwritten : c ∉ o.resolution.writes.map Prod.fst)
    (hcleared : c ∉ o.stripped.map Prod.fst) : (marked o rules formats).styleOf c = {} := by
  rw [marked, styleOf_foldl_markStripped_of_notMem hcleared, styleOf_written,
    decide_eq_false hwritten]

/-- The cleared mark of the closing row is bold and filled. -/
theorem styleOf_marked_of_totalBar (hnodup : (o.stripped.map Prod.fst).Nodup)
    (h : (c, (Tag.decorative Tag.totalBar).text) ∈ o.stripped) :
    (marked o rules formats).styleOf c = { bold := true, fill := some rules.totalBarFill } := by
  rw [marked, styleOf_foldl_markStripped hnodup h, clearedStyle_totalBar, styleOf_written]

/-- Where no mark of the closing row was cleared, nothing is filled. -/
theorem fill_marked (hnodup : (o.stripped.map Prod.fst).Nodup)
    (h : (c, (Tag.decorative Tag.totalBar).text) ∉ o.stripped) :
    ((marked o rules formats).styleOf c).fill = none := by
  rcases styleOf_marked_cases rules formats hnodup c with hwritten | ⟨text, hmem, hcleared⟩
  · rw [hwritten]
  · rw [hcleared]
    rcases clearedStyle_cases (c, text) _ with ⟨htext, -⟩ | hsame | hbold
    · obtain rfl : text = _ := htext
      exact absurd hmem h
    · rw [hsame]
    · rw [hbold]

/-- What was written is bold. -/
theorem bold_marked_of_written (hnodup : (o.stripped.map Prod.fst).Nodup)
    (h : c ∈ o.resolution.writes.map Prod.fst) :
    ((marked o rules formats).styleOf c).bold = true := by
  rcases styleOf_marked_cases rules formats hnodup c with hwritten | ⟨text, -, hcleared⟩
  · rw [hwritten]
    exact decide_eq_true h
  · rw [hcleared]
    rcases clearedStyle_cases (c, text) _ with ⟨-, hfill⟩ | hsame | hbold
    · rw [hfill]
    · rw [hsame]
      exact decide_eq_true h
    · rw [hbold]

/-- The cleared tag of an aggregate is bold in the report. -/
theorem bold_marked_of_isAggregate (hnodup : (o.stripped.map Prod.fst).Nodup) {text : String}
    {tag : Tag} (h : (c, text) ∈ o.stripped) (hcontains : o.extent.contains c = true)
    (hread : Tag.read text = .ok (some tag)) (haggregate : tag.isAggregate = true) :
    ((marked o rules formats).styleOf c).bold = true := by
  rw [marked, styleOf_foldl_markStripped hnodup h]
  exact bold_clearedStyle_of_isAggregate hcontains hread haggregate _

/-- Before anything is merged, a cell has the marks of what was written and cleared there, and
inside of the report the date format for a date and the edges that the cell lies on. -/
theorem styleOf_styled (g : Grid) (rules : StyleRules) (formats : SheetFormats)
    (hnodup : (o.stripped.map Prod.fst).Nodup) (c : Cell) :
    (styled g o rules formats).styleOf c =
      { bold := ((marked o rules formats).styleOf c).bold
        fill := ((marked o rules formats).styleOf c).fill
        border := if o.extent.contains c = true then edgesIn o.extent c else {}
        date := o.extent.contains c && (g.get c).isDate
        vertical := false } := by
  obtain ⟨bold, fill, hmarked⟩ := exists_styleOf_marked rules formats hnodup c
  change (((marked o rules formats).modifyAll _ _).outline o.extent).styleOf c = _
  rw [styleOf_outline, styleOf_modifyAll fun s => rfl, hmarked]
  simp only [List.mem_filter, Extent.mem_cells]
  cases o.extent.contains c <;> cases (g.get c).isDate <;> simp [Edges.combine]

/-- Adding a merged range changes no style. -/
@[simp] theorem styleOf_addMerge : (p.addMerge e).styleOf c = p.styleOf c := by
  unfold addMerge
  cases h : p.addMerge? e with
  | none => rfl
  | some p' =>
    rw [eq_of_addMerge? h]
    rfl

/-- Merging over subtotals changes no style. -/
theorem styleOf_foldl_mergeGroup (subtotals : List Subtotal) :
    (subtotals.foldl (mergeGroup rules) p).styleOf c = p.styleOf c := by
  induction subtotals generalizing p with
  | nil => rfl
  | cons s rest ih =>
    rw [List.foldl_cons, ih]
    unfold mergeGroup
    split
    · split
      · exact styleOf_addMerge
      · rfl
    · rfl

/-- The border and the rotation of a block from a cell down to a row. -/
def framed (p : StylePlan) (c bottom : Cell) : StylePlan :=
  (p.outline (blockDown c bottom)).modify c fun s => { s with vertical := true }

/-- A block of more than one cell reaches down to the row. -/
theorem last_blockDown_eq_iff : (blockDown c bottom).last = c ↔ bottom.row ≤ c.row := by
  unfold blockDown
  dsimp only
  split
  · rename_i hle
    rw [Cell.ext_iff]
    simp only [Cell.inRowOf, and_true]
    omega
  · rename_i hlt
    exact iff_of_true rfl (by omega)

/-- The block of the order is a single cell, or it is merged, or it overlaps a merged range and
nothing is done. -/
theorem orderBlock_cases (p : StylePlan) (c bottom : Cell) :
    bottom.row ≤ c.row ∧ p.orderBlock c bottom = p.framed c bottom ∨
    c.row < bottom.row ∧ (∀ m ∈ p.merges, m.overlaps (blockDown c bottom) = false) ∧
      p.orderBlock c bottom =
        { p with merges := p.merges ++ [blockDown c bottom] }.framed c bottom ∨
    c.row < bottom.row ∧ (∃ m ∈ p.merges, m.overlaps (blockDown c bottom) = true) ∧
      p.orderBlock c bottom = p := by
  unfold orderBlock
  dsimp only
  by_cases hle : bottom.row ≤ c.row
  · rw [if_pos (last_blockDown_eq_iff.mpr hle)]
    exact .inl ⟨hle, rfl⟩
  · rw [if_neg fun h => hle (last_blockDown_eq_iff.mp h)]
    by_cases hany : p.merges.any (·.overlaps (blockDown c bottom)) = true
    · rw [addMerge?, if_pos hany]
      exact .inr (.inr ⟨Nat.not_le.mp hle, List.any_eq_true.mp hany, rfl⟩)
    · rw [addMerge?, if_neg hany]
      exact .inr (.inl ⟨Nat.not_le.mp hle, by simpa using hany, rfl⟩)

/-- A frame changes no more than borders, and the rotation of its first cell. -/
theorem exists_styleOf_framed (p : StylePlan) (c d bottom : Cell) :
    ∃ border, (p.framed d bottom).styleOf c =
      { p.styleOf c with
        border := border
        vertical := decide (c = d) || (p.styleOf c).vertical } := by
  have houtline : ∃ border, (p.outline (blockDown d bottom)).styleOf c =
      { p.styleOf c with border := border } := by
    rw [styleOf_outline]
    split
    · exact ⟨_, rfl⟩
    · exact ⟨(p.styleOf c).border, rfl⟩
  obtain ⟨border, hborder⟩ := houtline
  refine ⟨border, ?_⟩
  rw [framed, styleOf_modify, hborder]
  by_cases h : c = d <;> simp [h]

/-- A frame changes nothing in other columns. -/
theorem styleOf_framed_of_col_ne (h : c.col ≠ d.col) :
    (p.framed d bottom).styleOf c = p.styleOf c := by
  have hne : c ≠ d := fun heq => h (congrArg Cell.col heq)
  have houtside : ¬ (blockDown d bottom).contains c = true := fun hcontains =>
    h (col_eq_of_blockDown_contains hcontains)
  rw [framed, styleOf_modify, if_neg hne, styleOf_outline, if_neg houtside]

/-- Placing the order leaves all styles, or frames a block from the cell of its placeholder. -/
theorem styleOf_placeOrder_cases (rules : StyleRules) (o : Outcome) (p : StylePlan) :
    (∀ c, (placeOrder rules o p).styleOf c = p.styleOf c) ∨
      ∃ p' : StylePlan, (∀ c, p'.styleOf c = p.styleOf c) ∧
        ∃ d, placeOrder rules o p = p'.framed d o.extent.last := by
  unfold placeOrder
  split
  · rename_i d name _
    rcases orderBlock_cases p d o.extent.last with
      ⟨-, hblock⟩ | ⟨-, -, hblock⟩ | ⟨-, -, hblock⟩
    · exact .inr ⟨p, fun _ => rfl, d, hblock⟩
    · exact .inr ⟨{ p with merges := p.merges ++ [blockDown d o.extent.last] }, fun _ => rfl, d,
        hblock⟩
    · exact .inl fun c => by rw [hblock]
  · exact .inl fun _ => rfl

/-- The plan of a report with its groups merged. -/
def merged (g : Grid) (o : Outcome) (rules : StyleRules) (formats : SheetFormats) : StylePlan :=
  o.resolution.subtotals.foldl (mergeGroup rules) (styled g o rules formats)

/-- The order is placed last. -/
theorem build_eq : build g o rules formats = placeOrder rules o (merged g o rules formats) := rfl

/-- Merging the groups changes no style. -/
theorem styleOf_merged :
    (merged g o rules formats).styleOf c = (styled g o rules formats).styleOf c :=
  styleOf_foldl_mergeGroup _

/-- What is bold or filled in a plan was written or cleared, and the dates are those of the
report. -/
theorem exists_styleOf_build (g : Grid) (rules : StyleRules) (formats : SheetFormats)
    (hnodup : (o.stripped.map Prod.fst).Nodup) (c : Cell) :
    ∃ border vertical, (build g o rules formats).styleOf c =
      { bold := ((marked o rules formats).styleOf c).bold
        fill := ((marked o rules formats).styleOf c).fill
        border := border
        date := o.extent.contains c && (g.get c).isDate
        vertical := vertical } := by
  have hstyled := styleOf_styled g rules formats hnodup c
  rcases styleOf_placeOrder_cases rules o (merged g o rules formats) with
    hsame | ⟨p, hp, d, hframed⟩
  · rw [build_eq, hsame, styleOf_merged, hstyled]
    exact ⟨_, _, rfl⟩
  · obtain ⟨border, hborder⟩ := exists_styleOf_framed p c d o.extent.last
    rw [build_eq, hframed, hborder, hp, styleOf_merged, hstyled]
    exact ⟨_, _, rfl⟩

/-- In a column without a rotated cell, the borders are the edges of the report. -/
theorem border_build (g : Grid) (rules : StyleRules) (formats : SheetFormats)
    (hnodup : (o.stripped.map Prod.fst).Nodup)
    (hcolumn : ∀ d, ((build g o rules formats).styleOf d).vertical = true → d.col ≠ c.col) :
    ((build g o rules formats).styleOf c).border =
      if o.extent.contains c = true then edgesIn o.extent c else {} := by
  have hstyled := styleOf_styled g rules formats hnodup c
  rcases styleOf_placeOrder_cases rules o (merged g o rules formats) with
    hsame | ⟨p, hp, d, hframed⟩
  · rw [build_eq, hsame, styleOf_merged, hstyled]
  · have hne : c.col ≠ d.col := by
      refine Ne.symm (hcolumn d ?_)
      obtain ⟨border, hborder⟩ := exists_styleOf_framed p d d o.extent.last
      rw [build_eq, hframed, hborder]
      simp
    rw [build_eq, hframed, styleOf_framed_of_col_ne hne, hp, styleOf_merged, hstyled]

/-! ## What no stage changes -/

/-- Whether a plan differs from another one in styles, merged ranges and the picture only. -/
def KeepsSheet (p p' : StylePlan) : Prop :=
  p' = { p with styles := p'.styles, merges := p'.merges, image := p'.image }

namespace KeepsSheet

variable {p p' p'' : StylePlan} {cells : List Cell} {change : Cell → CellStyle → CellStyle}

/-- A plan that keeps the sheet twice keeps it. -/
theorem trans (h : p.KeepsSheet p') (h' : p'.KeepsSheet p'') : p.KeepsSheet p'' := by
  unfold KeepsSheet at h h' ⊢
  rw [h', h]

/-- Stages that keep the sheet, one after another, keep it. -/
theorem foldl {α : Type} {stage : StylePlan → α → StylePlan}
    (h : ∀ p a, KeepsSheet p (stage p a)) (l : List α) (p : StylePlan) :
    p.KeepsSheet (l.foldl stage p) := by
  induction l generalizing p with
  | nil => rfl
  | cons a rest ih => exact (h p a).trans (ih (stage p a))

/-- Changing the styles of cells keeps the sheet. -/
theorem modifyAll (p : StylePlan) : p.KeepsSheet (p.modifyAll cells change) :=
  foldl (fun p c => show p.KeepsSheet (p.modify c (change c)) from rfl) cells p

/-- Marking the cell of a stripped tag keeps the sheet. -/
theorem markStripped (p : StylePlan) (tag : Cell × String) :
    p.KeepsSheet (markStripped rules extent p tag) := by
  have hplain : p.KeepsSheet
      (if extent.contains tag.1 then p.modify tag.1 (bold tag.1) else p) := by
    split <;> rfl
  unfold StylePlan.markStripped
  dsimp only
  split
  · split
    · rfl
    · exact hplain
  · split
    · split <;> rfl
    · exact hplain
  · exact hplain

/-- Adding a merged range keeps the sheet, whether or not it is accepted. -/
theorem addMerge (p : StylePlan) (e : Extent) : p.KeepsSheet (p.addMerge e) := by
  unfold StylePlan.addMerge
  cases h : p.addMerge? e with
  | none => rfl
  | some p' =>
    rw [eq_of_addMerge? h]
    rfl

/-- Merging the cells of a group keeps the sheet. -/
theorem mergeGroup (p : StylePlan) (s : Subtotal) : p.KeepsSheet (mergeGroup rules p s) := by
  unfold StylePlan.mergeGroup
  split
  · split
    · exact addMerge p _
    · rfl
  · rfl

/-- Drawing a frame keeps the sheet. -/
theorem framed (p : StylePlan) (c bottom : Cell) : p.KeepsSheet (p.framed c bottom) :=
  (modifyAll p).trans rfl

/-- The block of the order keeps the sheet. -/
theorem placeOrder (p : StylePlan) (o : Outcome) : p.KeepsSheet (placeOrder rules o p) := by
  unfold StylePlan.placeOrder
  split
  · rename_i d name _
    rcases orderBlock_cases p d o.extent.last with
      ⟨-, hblock⟩ | ⟨-, -, hblock⟩ | ⟨-, -, hblock⟩
    · rw [hblock]
      exact framed p d _
    · have hmerged : p.KeepsSheet
          { p with merges := p.merges ++ [blockDown d o.extent.last] } := rfl
      rw [hblock]
      exact hmerged.trans (framed _ d _)
    · rw [hblock]
      rfl
  · rfl

end KeepsSheet

/-- A plan has the settings, the column widths and the formats that it began with. -/
theorem keepsSheet_build (g : Grid) (o : Outcome) (rules : StyleRules) (formats : SheetFormats) :
    (start rules formats o.extent).KeepsSheet (build g o rules formats) := by
  have hmarked : (start rules formats o.extent).KeepsSheet (marked o rules formats) :=
    (KeepsSheet.modifyAll _).trans (.foldl .markStripped o.stripped _)
  have hstyled : (marked o rules formats).KeepsSheet (styled g o rules formats) :=
    (KeepsSheet.modifyAll _).trans (.modifyAll _)
  have hmerged : (styled g o rules formats).KeepsSheet (merged g o rules formats) :=
    .foldl .mergeGroup o.resolution.subtotals _
  exact hmarked.trans (hstyled.trans (hmerged.trans (.placeOrder _ o)))

/-- A plan has the date format of its rules. -/
theorem dateFormat_build : (build g o rules formats).dateFormat = rules.dateFormat := by
  rw [keepsSheet_build g o rules formats]
  rfl

end StylePlan

end SheetReport
