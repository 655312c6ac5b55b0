import SheetReport.OrderedMap
import SheetReport.Sheet.Cell
import SheetReport.Sheet.Value

/-!
# Grids

A grid holds the occupied cells of a sheet. Writing an empty value removes a cell, so no
stored value is empty and a grid is determined by the values it shows (`Grid.ext`).
-/

namespace SheetReport

/-- The occupied cells of a sheet with their values. -/
structure Grid where
  cells : OrderedMap Cell Value
  occupied : ∀ e ∈ cells.entries, e.2 ≠ .empty

namespace Grid

/-- The grid without occupied cells. -/
def empty : Grid := ⟨.empty, by simp [OrderedMap.empty]⟩

instance : Inhabited Grid := ⟨empty⟩

instance : DecidableEq Grid := fun a b =>
  decidable_of_iff (a.cells = b.cells)
    ⟨fun h => by cases a; cases b; simp_all, fun h => by rw [h]⟩

/-- The value of a cell. -/
def get (g : Grid) (c : Cell) : Value := (g.cells.get? c).getD .empty

/-- The occupied cells and their values, row by row. -/
def entries (g : Grid) : List (Cell × Value) := g.cells.entries

/-- The number of occupied cells. -/
def size (g : Grid) : Nat := g.cells.size

/-- Whether no cell is occupied. -/
def isEmpty (g : Grid) : Bool := g.cells.isEmpty

/-- Make a cell empty. -/
def clear (g : Grid) (c : Cell) : Grid :=
  ⟨g.cells.erase c, fun e he => g.occupied e (List.mem_filter.1 he).1⟩

/-- Write a value; an empty value clears the cell. -/
def set (g : Grid) (c : Cell) (v : Value) : Grid :=
  if h : v = .empty then g.clear c
  else
    ⟨g.cells.insert c v, fun e he => by
      rcases OrderedMap.mem_insertEntry he with rfl | he
      · exact h
      · exact g.occupied e he⟩

/-- Write values one after another. -/
def setAll (g : Grid) (writes : List (Cell × Value)) : Grid :=
  writes.foldl (fun g w => g.set w.1 w.2) g

/-- The grid of a list of cells and values; a later entry replaces an earlier one. -/
def ofList (entries : List (Cell × Value)) : Grid := empty.setAll entries

/-- The empty grid has no values. -/
@[simp] theorem get_empty (c : Cell) : empty.get c = .empty := rfl

/-- Clearing empties one cell and leaves the others. -/
theorem get_clear (g : Grid) (c c' : Cell) :
    (g.clear c).get c' = if c' = c then .empty else g.get c' := by
  unfold get clear
  by_cases h : c' = c
  · subst h; simp
  · simp [h, OrderedMap.get?_erase_of_ne _ h]

/-- Writing changes one cell and leaves the others. -/
theorem get_set (g : Grid) (c c' : Cell) (v : Value) :
    (g.set c v).get c' = if c' = c then v else g.get c' := by
  unfold set
  split
  · rename_i h
    rw [get_clear, h]
  · unfold get
    by_cases h : c' = c
    · subst h; simp
    · simp [h, OrderedMap.get?_insert_of_ne _ _ h]

/-- The listed entries are the non-empty values. -/
theorem mem_entries {g : Grid} {c : Cell} {v : Value} :
    (c, v) ∈ g.entries ↔ g.get c = v ∧ v ≠ .empty := by
  unfold entries get
  rw [← OrderedMap.get?_eq_some_iff]
  constructor
  · intro h
    have hv := g.occupied _ (OrderedMap.get?_eq_some_iff.1 h)
    exact ⟨by simp [h], hv⟩
  · rintro ⟨h, hv⟩
    cases hc : g.cells.get? c with
    | none => simp [hc] at h; exact absurd h.symm hv
    | some w => simp [hc] at h; rw [h]

/-- A grid is determined by the values of its cells. -/
theorem ext {g h : Grid} (heq : ∀ c, g.get c = h.get c) : g = h := by
  have : g.cells = h.cells := by
    apply OrderedMap.ext
    intro c
    cases hg : g.cells.get? c with
    | some v =>
      have hmem := (mem_entries (g := g)).1 (OrderedMap.get?_eq_some_iff.1 hg)
      exact (OrderedMap.get?_eq_some_iff.2 (mem_entries.2 ⟨heq c ▸ hmem.1, hmem.2⟩)).symm
    | none =>
      cases hh : h.cells.get? c with
      | none => rfl
      | some v =>
        have hmem := (mem_entries (g := h)).1 (OrderedMap.get?_eq_some_iff.1 hh)
        have := OrderedMap.get?_eq_some_iff.2 (mem_entries.2 ⟨(heq c).trans hmem.1, hmem.2⟩)
        rw [hg] at this
        exact absurd this (by simp)
  cases g; cases h; simp_all

end Grid

end SheetReport
