import Mathlib.Data.List.NodupEquivFin
import SheetReport.Proofs.Records.Reordering
import SheetReport.Proofs.Sequence

/-!
# Where the rows of cleaned records come from

Whatever the steps are and in whatever order they come, cleaning treats every record by itself: a
step changes the columns, and each record by a change that looks at no other record, and it may
leave out records but never all of them. So the records that are left stand in the order of the
input, and each is what the steps make of its own input record.

A step finds the positions of its columns first and goes through the records then. That it never
leaves a record is told by a second account of the steps, in which every access outside a record
ends the run; on records of full width both accounts agree.

Main statement: `applyAll_treats_records_apart`.
-/

namespace SheetReport

namespace Record

/-- The value at a position; none if the record does not reach it. -/
def get? (r : Record) (index : Nat) : Option Value := r.values[index]?

/-- The record with another value at a position; none if the record does not reach it. -/
def set? (r : Record) (index : Nat) (v : Value) : Option Record :=
  (r.get? index).map fun _ => r.set index v

/-- The record without the value at a position; none if the record does not reach it. -/
def erase? (r : Record) (index : Nat) : Option Record :=
  (r.get? index).map fun _ => ⟨r.values.eraseIdx index⟩

end Record

namespace CleaningStep

/-- Whether a record is one that a `dropRows` step removes; none if it does not reach the
column. -/
def matchesRow? (value : String) (exact : Bool) (index : Nat) (r : Record) : Option Bool := do
  let text := (← r.get? index).print
  some (if exact then text == value else Text.containsChars value.toList text.toList)

/-- Remove the records that match, unless all of them do. -/
def dropMatching? (matching : Record → Option Bool) (records : List Record) :
    Option (List Record) := do
  let marks ← records.mapM matching
  some (if marks.all id then records
    else ((records.zip marks).filter fun e => !e.2).map Prod.fst)

/-- Change the value at a position of every record; none if one does not reach it. -/
def edit? (index : Nat) (change : Record → Value → Option Value) (s : Records) :
    Option Records := do
  let records ← s.records.mapM fun r => do r.set? index (← change r (← r.get? index))
  some { s with records := records }

/-- Change the column of a name, if it is there. -/
def onColumn? (column : String) (change : Nat → Records → Option Records) (s : Records) :
    Option Records :=
  match s.index? column with
  | some index => change index s
  | none => some s

/-- The records without one column, if it is there; none if a record does not reach it. -/
def dropColumn? (s : Records) (column : String) : Option Records :=
  onColumn? column (fun index s => do
    let records ← s.records.mapM (·.erase? index)
    some ⟨s.columns.eraseIdx index, records⟩) s

/-- The records with the values at some positions; none if one does not reach all of them. -/
def choose? (order : List String) (indices : List Nat) (s : Records) : Option Records := do
  let records ← s.records.mapM fun r => (indices.mapM r.get?).map Record.mk
  some ⟨order, records⟩

/-- Apply one step; none if it leaves a record. -/
def applyOne? (step : CleaningStep) (s : Records) : Option Records :=
  match step with
  | .dropRows column value exact =>
    onColumn? column (fun index s => do
      let records ← dropMatching? (matchesRow? value exact index) s.records
      some { s with records := records }) s
  | .clearAtOrBelow column threshold =>
    onColumn? column (fun index => edit? index fun _ v => some (clearedAtOrBelow threshold v)) s
  | .replace column old new =>
    onColumn? column (fun index => edit? index fun _ v => some (replaced old (.text new) v)) s
  | .replaceFrom column old source unwanted =>
    onColumn? column (fun index => onColumn? source fun sourceIndex =>
      edit? index fun r v => do
        let replacement ← r.get? sourceIndex
        some (replacedFrom old unwanted replacement v)) s
  | .keepColumns keep => (s.columns.filter fun c => !keep.contains c).foldlM dropColumn? s
  | .datesOnly column => onColumn? column (fun index => edit? index fun _ v => some (dateOnly v)) s
  | .reorder order =>
    match order.mapM s.require with
    | .error _ => some s
    | .ok indices =>
      if indices.length = s.columns.length then choose? order indices s else some s

/-- Apply steps one after another; none if one leaves a record. -/
def applyAll? (steps : List CleaningStep) (s : Records) : Option Records :=
  steps.foldlM (fun s step => step.applyOne? s) s

end CleaningStep

/-- How columns and one record under them come from others by value edits and column operations
alone. -/
inductive Reworked (columns : List String) (r : Record) : List String → Record → Prop
  | same : Reworked columns r columns r
  /-- Another value stands under a column. -/
  | edit {columns' : List String} {r' : Record} {name : String} (v : Value)
      (h : Reworked columns r columns' r') (hname : name ∈ columns') :
      Reworked columns r columns' (r'.set (columns'.idxOf name) v)
  /-- A column is dropped together with the value under it. -/
  | drop {columns' : List String} {r' : Record} {name : String}
      (h : Reworked columns r columns' r') (hname : name ∈ columns') :
      Reworked columns r (columns'.erase name) ⟨r'.values.eraseIdx (columns'.idxOf name)⟩
  /-- Columns are listed anew, each with the value under its name. -/
  | list {columns' order : List String} {r' : Record}
      (h : Reworked columns r columns' r') (horder : ∀ name ∈ order, name ∈ columns') :
      Reworked columns r order ⟨order.map fun name => r'.get (columns'.idxOf name)⟩

namespace Reworked

variable {columns columns' columns'' : List String} {r r' r'' : Record}

/-- What comes from something that was reworked was reworked itself. -/
theorem trans (h : Reworked columns r columns' r') (h' : Reworked columns' r' columns'' r'') :
    Reworked columns r columns'' r'' := by
  induction h' with
  | same => exact h
  | edit v _ hname ih => exact .edit v ih hname
  | drop _ hname ih => exact .drop ih hname
  | list _ horder ih => exact .list ih horder

/-- No column is new. -/
theorem subset (h : Reworked columns r columns' r') : columns' ⊆ columns := by
  induction h with
  | same => exact List.Subset.refl _
  | edit v _ hname ih => exact ih
  | drop _ hname ih => exact List.Subset.trans List.erase_subset ih
  | list _ horder ih => exact List.Subset.trans horder ih

/-- A record of full width stays one. -/
theorem length_eq (h : Reworked columns r columns' r') (hr : r.values.length = columns.length) :
    r'.values.length = columns'.length := by
  induction h with
  | same => exact hr
  | edit v _ hname ih => rw [Record.set, List.length_set, ih]
  | drop _ hname ih =>
    rw [List.length_eraseIdx, List.length_erase_of_mem hname, ih,
      if_pos (List.idxOf_lt_length_of_mem hname)]
  | list _ horder ih => rw [List.length_map]

end Reworked

namespace CleaningStep

open Records

/-- A change of records that makes columns of columns and treats every record by itself: it leaves
out some records, but not all of them, and changes each of the others alike. -/
structure RowWise (f : Records → Records) (columns columns' : List String)
    (change : Record → Record) : Prop where
  reworked : ∀ r, Reworked columns r columns' (change r)
  rows : ∀ records, ∃ kept, kept.Sublist records ∧ (records ≠ [] → kept ≠ []) ∧
    f ⟨columns, records⟩ = ⟨columns', kept.map change⟩

/-- A change of records that treats every record by itself, whatever the columns are. -/
def IsRowWise (f : Records → Records) : Prop :=
  ∀ columns, ∃ columns' change, RowWise f columns columns' change

section RowWise

variable {f g : Records → Records} {columns columns' columns'' : List String}
  {change change' : Record → Record} {column : String}

/-- A change that keeps all records is told by the columns and by what becomes of each record. -/
theorem rowWise_of_map (hreworked : ∀ r, Reworked columns r columns' (change r))
    (h : ∀ records, f ⟨columns, records⟩ = ⟨columns', records.map change⟩) :
    RowWise f columns columns' change :=
  ⟨hreworked, fun records => ⟨records, .refl _, id, h records⟩⟩

/-- What does nothing under some columns treats every record by itself. -/
theorem rowWise_of_eq_self (h : ∀ records, f ⟨columns, records⟩ = ⟨columns, records⟩) :
    RowWise f columns columns id :=
  rowWise_of_map (fun _ => .same) fun records => by rw [h, List.map_id]

/-- One change after another leaves out what either leaves out. -/
theorem RowWise.trans (hf : RowWise f columns columns' change)
    (hg : RowWise g columns' columns'' change') :
    RowWise (fun s => g (f s)) columns columns'' fun r => change' (change r) where
  reworked r := (hf.reworked r).trans (hg.reworked _)
  rows records := by
    obtain ⟨kept, hkept, hsome, heq⟩ := hf.rows records
    obtain ⟨kept', hkept', hsome', heq'⟩ := hg.rows (kept.map change)
    -- what the second change keeps was kept by the first one already
    obtain ⟨rows, hrows, rfl⟩ := List.sublist_map_iff.mp hkept'
    refine ⟨rows, hrows.trans hkept, fun hne => ?_, ?_⟩
    · have hmap := hsome' (mt List.map_eq_nil_iff.mp (hsome hne))
      exact fun hnil => hmap (by rw [hnil, List.map_nil])
    · rw [heq, heq', List.map_map]
      rfl

/-- Changes one after another treat every record by itself if each of them does. -/
theorem isRowWise_foldl {α : Type} {f : Records → α → Records} {l : List α}
    (h : ∀ a ∈ l, IsRowWise fun s => f s a) : IsRowWise fun s => l.foldl f s := by
  induction l with
  | nil => exact fun columns => ⟨columns, id, rowWise_of_eq_self fun _ => rfl⟩
  | cons a rest ih =>
    obtain ⟨ha, hrest⟩ := List.forall_mem_cons.mp h
    intro columns
    obtain ⟨columns', change, hf⟩ := ha columns
    obtain ⟨columns'', change', hg⟩ := ih hrest columns'
    exact ⟨columns'', _, hf.trans hg⟩

/-- A change of one column has to treat records by themselves only where the column exists. -/
theorem isRowWise_onColumn {f : Nat → Records → Records}
    (h : ∀ columns, column ∈ columns →
      ∃ columns' change, RowWise (f (columns.idxOf column)) columns columns' change) :
    IsRowWise (onColumn column f) := by
  intro columns
  by_cases hmem : column ∈ columns
  · obtain ⟨columns', change, hf⟩ := h columns hmem
    refine ⟨columns', change, hf.reworked, fun records => ?_⟩
    rw [onColumn, index?_of_mem hmem]
    exact hf.rows records
  · refine ⟨columns, id, rowWise_of_eq_self fun records => ?_⟩
    rw [onColumn, index?_of_notMem hmem]

/-- An edit changes the value of every record at one position. -/
theorem rowWise_edit (hmem : column ∈ columns) (change : Record → Value → Value) :
    RowWise (edit (columns.idxOf column) change) columns columns fun r =>
      r.set (columns.idxOf column) (change r (r.get (columns.idxOf column))) :=
  rowWise_of_map (fun _ => .edit _ .same hmem) fun _ => rfl

/-- An edit of one column treats every record by itself. -/
theorem isRowWise_edit (column : String) (change : Record → Value → Value) :
    IsRowWise (onColumn column fun index => edit index change) :=
  isRowWise_onColumn fun _ hmem => ⟨_, _, rowWise_edit hmem change⟩

/-- Removing records leaves some of them. -/
theorem rowWise_dropMatching (matching : Record → Bool) (columns : List String) :
    RowWise (fun s => { s with records := dropMatching matching s.records }) columns columns id where
  reworked _ := .same
  rows records := by
    refine ⟨dropMatching matching records, ?_, fun hne => ?_, by rw [List.map_id]⟩
    · unfold dropMatching
      split_ifs
      · exact .refl _
      · exact List.filter_sublist
    · unfold dropMatching
      split_ifs with hall
      · exact hne
      · obtain ⟨r, hr, hnot⟩ : ∃ r ∈ records, matching r = false := by simpa using hall
        exact List.ne_nil_of_mem (List.mem_filter.mpr ⟨hr, by rw [hnot]; rfl⟩)

/-- Dropping a column takes one value from every record. -/
theorem isRowWise_dropColumn (column : String) : IsRowWise fun s => dropColumn s column := by
  intro columns
  refine ⟨columns.erase column, fun r => ⟨valuesWithout column columns r.values⟩,
    rowWise_of_map (fun r => ?_) fun records => dropColumn_eq _ _⟩
  by_cases hmem : column ∈ columns
  · rw [valuesWithout, if_pos hmem]
    exact .drop .same hmem
  · rw [valuesWithout, if_neg hmem, List.erase_of_not_mem hmem]
    exact .same

/-- Reordering chooses the same positions in every record. -/
theorem isRowWise_reorder (order : List String) : IsRowWise (CleaningStep.reorder order).apply := by
  intro columns
  by_cases hfits : Fits ⟨columns, []⟩ order
  · refine ⟨order, fun r => ⟨order.map fun name => r.get (columns.idxOf name)⟩,
      rowWise_of_map (fun r => .list .same hfits.1) fun records => ?_⟩
    have hreorder : Records.reorder ⟨columns, records⟩ order = .ok _ :=
      reorder_eq_ok_iff.mpr ⟨hfits, rfl⟩
    rw [apply, hreorder, table]
    refine congrArg (Records.mk order) (List.map_congr_left fun r _ => congrArg Record.mk ?_)
    refine List.map_congr_left fun name hname => ?_
    have hindex : Records.index? ⟨columns, records⟩ name = some (columns.idxOf name) :=
      index?_of_mem (hfits.1 name hname)
    rw [Records.value, hindex]
  · refine ⟨columns, id, rowWise_of_eq_self fun records => ?_⟩
    cases hreorder : Records.reorder ⟨columns, records⟩ order with
    | ok s' => exact absurd (reorder_eq_ok_iff.mp hreorder).1 hfits
    | error error => rw [apply, hreorder]

/-- Every step treats every record by itself. -/
theorem isRowWise_apply (step : CleaningStep) : IsRowWise step.apply := by
  cases step with
  | dropRows column value exact =>
    exact isRowWise_onColumn fun columns _ => ⟨columns, id, rowWise_dropMatching _ columns⟩
  | clearAtOrBelow column threshold => exact isRowWise_edit column _
  | replace column old new => exact isRowWise_edit column _
  | replaceFrom column old source unwanted =>
    refine isRowWise_onColumn fun columns hmem => ?_
    by_cases hsource : source ∈ columns
    · have hedit := rowWise_edit hmem fun r =>
        replacedFrom old unwanted (r.get (columns.idxOf source))
      refine ⟨columns, _, hedit.reworked, fun records => ?_⟩
      rw [onColumn, index?_of_mem hsource]
      exact hedit.rows records
    · refine ⟨columns, id, rowWise_of_eq_self fun records => ?_⟩
      rw [onColumn, index?_of_notMem hsource]
  | keepColumns keep =>
    intro columns
    obtain ⟨columns', change, hdrop⟩ :=
      isRowWise_foldl (l := columns.filter fun c => !keep.contains c)
        (fun name _ => isRowWise_dropColumn name) columns
    exact ⟨columns', change, hdrop.reworked, hdrop.rows⟩
  | datesOnly column => exact isRowWise_edit column _
  | reorder order => exact isRowWise_reorder order

/-- A cleaning program treats every record by itself. -/
theorem isRowWise_applyAll (steps : List CleaningStep) : IsRowWise (applyAll steps) :=
  isRowWise_foldl fun step _ => isRowWise_apply step

/-- What treats every record by itself keeps all records at full width. -/
theorem IsRowWise.isRectangular {s : Records} (hf : IsRowWise f) (h : s.IsRectangular) :
    (f s).IsRectangular := by
  obtain ⟨columns', change, hrows⟩ := hf s.columns
  obtain ⟨kept, hkept, -, heq⟩ := hrows.rows s.records
  have heq : f s = ⟨columns', kept.map change⟩ := heq
  rw [heq]
  intro r' hr'
  obtain ⟨r, hr, rfl⟩ := List.mem_map.mp hr'
  exact (hrows.reworked r).length_eq (h r (hkept.subset hr))

end RowWise

section Within

variable {s : Records} {index : Nat}

/-- A record that reaches a position has its value there. -/
theorem get?_eq {r : Record} (h : index < r.values.length) : r.get? index = some (r.get index) := by
  simp [Record.get?, Record.get, h]

/-- The position of a column is one of the columns. -/
theorem lt_of_index? {column : String} (h : s.index? column = some index) :
    index < s.columns.length :=
  (List.findIdx?_eq_some_iff_findIdx_eq.mp h).1

/-- Removing records looks at no other position than that of the column. -/
theorem dropMatching?_eq {matching? : Record → Option Bool} {matching : Record → Bool}
    {records : List Record} (h : ∀ r ∈ records, matching? r = some (matching r)) :
    dropMatching? matching? records = some (dropMatching matching records) := by
  have hkept : ((records.zip (records.map matching)).filter fun e => !e.2).map Prod.fst =
      records.filter fun r => !matching r := by
    have hzip : records.zip (records.map matching) = records.map fun r => (r, matching r) := by
      simpa using List.zip_map' (l := records) (f := id) (g := matching)
    rw [hzip, List.filter_map, List.map_map]
    exact List.map_id _
  rw [dropMatching?, mapM_eq_some_map h]
  simp only [Option.bind_eq_bind, Option.bind_some, List.all_map, Function.id_comp, hkept,
    dropMatching]

/-- An edit of records that reach the position changes them. -/
theorem edit?_eq {change? : Record → Value → Option Value} {change : Record → Value → Value}
    (hindex : ∀ r ∈ s.records, index < r.values.length)
    (h : ∀ r ∈ s.records, ∀ v, change? r v = some (change r v)) :
    edit? index change? s = some (edit index change s) := by
  have hrecord : ∀ r ∈ s.records, (do r.set? index (← change? r (← r.get? index))) =
      some (r.set index (change r (r.get index))) := by
    intro r hr
    simp only [get?_eq (hindex r hr), h r hr, Record.set?, Option.bind_eq_bind, Option.bind_some,
      Option.map_some]
  rw [edit?, mapM_eq_some_map hrecord]
  rfl

/-- An edit of one column reaches it in every record of full width. -/
theorem onColumn?_edit?_eq (h : s.IsRectangular) (column : String) (change : Value → Value) :
    onColumn? column (fun index => edit? index fun _ v => some (change v)) s =
      some (onColumn column (fun index => edit index fun _ => change) s) := by
  rw [onColumn?, onColumn]
  cases hindex : s.index? column with
  | none => rfl
  | some index => exact edit?_eq (fun r hr => h r hr ▸ lt_of_index? hindex) fun _ _ _ => rfl

/-- Dropping a column takes a value from every record of full width. -/
theorem dropColumn?_eq (h : s.IsRectangular) (column : String) :
    dropColumn? s column = some (dropColumn s column) := by
  rw [dropColumn?, onColumn?, dropColumn, Records.dropColumn?]
  cases hindex : s.index? column with
  | none => rfl
  | some index =>
    have herase : ∀ r ∈ s.records, r.erase? index = some ⟨r.values.eraseIdx index⟩ := by
      intro r hr
      rw [Record.erase?, get?_eq (h r hr ▸ lt_of_index? hindex), Option.map_some]
    simp only [mapM_eq_some_map herase, Option.bind_eq_bind, Option.bind_some, Option.map_some,
      Option.getD_some, dropIndex]

/-- Choosing positions of columns reaches all of them in every record of full width. -/
theorem choose?_eq (h : s.IsRectangular) (order : List String) {indices : List Nat}
    (hindices : ∀ index ∈ indices, index < s.columns.length) :
    choose? order indices s = some ⟨order, s.records.map fun r => ⟨indices.map r.get⟩⟩ := by
  have hrecord : ∀ r ∈ s.records, (indices.mapM r.get?).map Record.mk =
      some ⟨indices.map r.get⟩ := by
    intro r hr
    rw [mapM_eq_some_map fun index hindex => get?_eq (h r hr ▸ hindices index hindex),
      Option.map_some]
  rw [choose?, mapM_eq_some_map hrecord]
  rfl

/-- No step leaves a record of full width. -/
theorem applyOne?_eq (step : CleaningStep) (h : s.IsRectangular) :
    step.applyOne? s = some (step.apply s) := by
  cases step with
  | dropRows column value exact =>
    rw [applyOne?, apply, onColumn?, onColumn]
    cases hindex : s.index? column with
    | none => rfl
    | some index =>
      have hmatch : ∀ r ∈ s.records, matchesRow? value exact index r =
          some (matchesRow value exact index r) := by
        intro r hr
        rw [matchesRow?, get?_eq (h r hr ▸ lt_of_index? hindex)]
        rfl
      simp only [dropMatching?_eq hmatch, Option.bind_eq_bind, Option.bind_some]
  | clearAtOrBelow column threshold => exact onColumn?_edit?_eq h column _
  | replace column old new => exact onColumn?_edit?_eq h column _
  | replaceFrom column old source unwanted =>
    rw [applyOne?, apply, onColumn?, onColumn]
    cases hindex : s.index? column with
    | none => rfl
    | some index =>
      simp only [onColumn?, onColumn]
      cases hsource : s.index? source with
      | none => rfl
      | some sourceIndex =>
        refine edit?_eq (fun r hr => h r hr ▸ lt_of_index? hindex) fun r hr v => ?_
        rw [get?_eq (h r hr ▸ lt_of_index? hsource)]
        rfl
  | keepColumns keep =>
    rw [applyOne?, apply]
    generalize s.columns.filter (fun c => !keep.contains c) = names
    induction names generalizing s with
    | nil => rfl
    | cons name rest ih =>
      have hdrop := dropColumn?_eq h name
      rw [List.foldlM_cons, hdrop, List.foldl_cons]
      exact ih ((isRowWise_dropColumn name).isRectangular h)
  | datesOnly column => exact onColumn?_edit?_eq h column _
  | reorder order =>
    rw [applyOne?, apply, Records.reorder]
    cases hindices : order.mapM s.require with
    | error error => rfl
    | ok indices =>
      have hlt : ∀ index ∈ indices, index < s.columns.length := by
        intro index hmem
        obtain ⟨name, -, hname⟩ := (mem_of_mapM_eq_ok hindices index).mp hmem
        unfold require at hname
        split at hname
        · rename_i index' hindex
          obtain rfl := Except.ok.inj hname
          exact lt_of_index? hindex
        · contradiction
      dsimp only
      split_ifs
      · exact choose?_eq h order hlt
      · rfl

/-- A cleaning program never leaves a record of full width. -/
theorem applyAll?_eq (steps : List CleaningStep) (h : s.IsRectangular) :
    applyAll? steps s = some (applyAll steps s) := by
  induction steps generalizing s with
  | nil => rfl
  | cons step rest ih =>
    rw [applyAll?, List.foldlM_cons, applyOne?_eq step h]
    exact ih ((isRowWise_apply step).isRectangular h)

end Within

/-- A part of a list stands at positions that go up. -/
theorem exists_strictMono_of_sublist {α β : Type} {kept l : List α} (h : kept.Sublist l)
    (change : α → β) : ∃ p : Fin (kept.map change).length → Fin l.length, StrictMono p ∧
      ∀ k, (kept.map change).get k = change (l.get (p k)) := by
  obtain ⟨p, hp⟩ := List.sublist_iff_exists_fin_orderEmbedding_get_eq.mp h
  refine ⟨fun k => p (k.cast (List.length_map change)), fun i j hij => p.strictMono hij, fun k => ?_⟩
  have hget := hp (k.cast (List.length_map change))
  rw [← hget]
  simp

/-- A cleaning program keeps records of full width at full width, under columns that were there
before. It leaves some records, if there are any, in the order of the input. Each of them comes
from its own input record by value edits and column operations alone, and is what the program makes
of that record when it stands alone. No step reads or writes outside of a record. -/
theorem applyAll_treats_records_apart (steps : List CleaningStep) {s : Records}
    (h : s.IsRectangular) :
    (applyAll steps s).IsRectangular ∧
      (∀ name ∈ (applyAll steps s).columns, name ∈ s.columns) ∧
      (applyAll steps s).records.length ≤ s.records.length ∧
      (s.records ≠ [] → (applyAll steps s).records ≠ []) ∧
      (∃ p : Fin (applyAll steps s).records.length → Fin s.records.length, StrictMono p ∧ ∀ k,
        Reworked s.columns (s.records.get (p k)) (applyAll steps s).columns
          ((applyAll steps s).records.get k) ∧
        applyAll steps ⟨s.columns, [s.records.get (p k)]⟩ =
          ⟨(applyAll steps s).columns, [(applyAll steps s).records.get k]⟩) ∧
      applyAll? steps s = some (applyAll steps s) := by
  obtain ⟨columns', change, hrows⟩ := isRowWise_applyAll steps s.columns
  obtain ⟨kept, hkept, hsome, heq⟩ := hrows.rows s.records
  have heq : applyAll steps s = ⟨columns', kept.map change⟩ := heq
  -- a record that stands alone is neither removed nor seen together with others
  have halone (r : Record) : applyAll steps ⟨s.columns, [r]⟩ = ⟨columns', [change r]⟩ := by
    obtain ⟨kept', hkept', hsome', heq'⟩ := hrows.rows [r]
    obtain rfl : kept' = [r] :=
      (List.sublist_singleton.mp hkept').resolve_left (hsome' (List.cons_ne_nil r []))
    exact heq'
  refine ⟨(isRowWise_applyAll steps).isRectangular h, ?_, ?_, ?_, ?_, applyAll?_eq steps h⟩
  · rw [heq]
    cases hrecords : s.records with
    | nil => exact (hrows.reworked default).subset
    | cons r rest => exact (hrows.reworked r).subset
  · rw [heq, List.length_map]
    exact hkept.length_le
  · rw [heq]
    exact fun hne => mt List.map_eq_nil_iff.mp (hsome hne)
  · rw [heq]
    obtain ⟨p, hp, hget⟩ := exists_strictMono_of_sublist hkept change
    refine ⟨p, hp, fun k => ?_⟩
    rw [hget k, halone]
    exact ⟨hrows.reworked _, rfl⟩

namespace TotalledRecords

/-- Two orders and their total. -/
def records : Records :=
  ⟨["Line Item", "Size", "Note"],
    [⟨[.text "ORD-1", .text "1 x 1", .text "new"]⟩, ⟨[.text "Total", .empty, .empty]⟩,
      ⟨[.text "ORD-2", .text "Native", .text "old"]⟩]⟩

/-- A program that lists a column twice, and would then remove everything. -/
def steps : List CleaningStep :=
  [.dropRows "Line Item" "Total" true, .replace "Size" "1 x 1" "pageskin",
    .keepColumns ["Size", "Line Item"], .reorder ["Size", "Size"], .dropRows "Size" "" false]

/-- What is left of the orders. -/
def cleaned : Records :=
  ⟨["Size", "Size"],
    [⟨[.text "pageskin", .text "pageskin"]⟩, ⟨[.text "Native", .text "Native"]⟩]⟩

end TotalledRecords

/-- Of two orders and their total, the orders are left, each as it is made of its own record. -/
theorem totalledRecords_treated_apart :
    TotalledRecords.records.IsRectangular ∧
      applyAll TotalledRecords.steps TotalledRecords.records = TotalledRecords.cleaned ∧
      TotalledRecords.cleaned.IsRectangular ∧
      (∃ p : Fin 2 → Fin 3, StrictMono p ∧ ∀ k,
        Reworked TotalledRecords.records.columns (TotalledRecords.records.records.get (p k))
          TotalledRecords.cleaned.columns (TotalledRecords.cleaned.records.get k)) ∧
      applyAll? TotalledRecords.steps TotalledRecords.records = some TotalledRecords.cleaned := by
  have hrectangular : TotalledRecords.records.IsRectangular := by decide
  have hcleaned : applyAll TotalledRecords.steps TotalledRecords.records =
      TotalledRecords.cleaned := by decide
  obtain ⟨hcleanedRectangular, -, -, -, hrows, hwithin⟩ :=
    applyAll_treats_records_apart TotalledRecords.steps hrectangular
  rw [hcleaned] at hcleanedRectangular hrows hwithin
  obtain ⟨p, hp, hrow⟩ := hrows
  exact ⟨hrectangular, hcleaned, hcleanedRectangular, ⟨p, hp, fun k => (hrow k).1⟩, hwithin⟩

end CleaningStep

end SheetReport
