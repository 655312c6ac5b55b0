import SheetReport.Number.Text
import SheetReport.Number.Read

/-!
# Cells of a sheet and their names

A sheet has 2^32 rows and 2^16 columns, counted from zero. Cells are ordered row by row, by
their index in that order. A cell's name is its column in letters, where `Z` is followed by
`AA`, and its row counted from one.

Main statements: the index determines the cell (`index_injective`), and the order of cells is
the order of their indices.
-/

namespace SheetReport

open Std

/-- A cell of a sheet. -/
@[ext] structure Cell where
  row : Nat
  col : Nat
  row_lt : row < 4294967296
  col_lt : col < 65536
deriving DecidableEq, Repr

namespace Cell

instance : Inhabited Cell := ⟨⟨0, 0, by decide, by decide⟩⟩

/-- The cell at a row and a column, if the sheet has it. -/
def ofNat? (row col : Nat) : Option Cell :=
  if h : row < 4294967296 ∧ col < 65536 then some ⟨row, col, h.1, h.2⟩ else none

/-- The cell at a row and a column given as integers, if the sheet has it. -/
def ofInt? (row col : Int) : Option Cell :=
  if 0 ≤ row ∧ 0 ≤ col then ofNat? row.toNat col.toNat else none

/-- The cell some rows below and some columns right of this one; negative distances lead up
and left. -/
def offset? (c : Cell) (rows cols : Int) : Option Cell :=
  ofInt? (c.row + rows) (c.col + cols)

/-- The place of a cell when the sheet is read row by row. -/
def index (c : Cell) : Nat := c.row * 65536 + c.col

instance : Ord Cell := ⟨fun a b => compare a.index b.index⟩

instance : TransOrd Cell where
  eq_swap {a b} := OrientedOrd.eq_swap (a := a.index) (b := b.index)
  isLE_trans {a b c} h₁ h₂ := TransOrd.isLE_trans (a := a.index) (b := b.index) (c := c.index) h₁ h₂

/-- Cells at the same place are the same. -/
theorem index_injective {a b : Cell} (h : a.index = b.index) : a = b := by
  have ha := a.col_lt
  have hb := b.col_lt
  simp only [index] at h
  ext <;> omega

instance : LawfulEqOrd Cell where
  eq_of_compare {a b} h :=
    index_injective
      (LawfulEqOrd.eq_of_compare (α := Nat) (show compare a.index b.index = .eq from h))

/-- Whether a cell comes at or before another. -/
def le (a b : Cell) : Bool := a.index ≤ b.index

/-- The letter of a number below 26. -/
def letter (n : Nat) : Char := Char.ofNat (65 + n)

/-- The letters of a column, last letter first, in at most `fuel` letters. -/
def lettersReversed : Nat → Nat → List Char
  | 0, _ => []
  | fuel + 1, col =>
    letter (col % 26) :: if col < 26 then [] else lettersReversed fuel (col / 26 - 1)

/-- The letters of a column. -/
def letters (col : Nat) : List Char := (lettersReversed (col + 1) col).reverse

/-- The name of a cell. -/
def chars (c : Cell) : List Char := letters c.col ++ Number.natDigits (c.row + 1)

/-- The name of a cell, as text. -/
def name (c : Cell) : String := String.ofList c.chars

/-- The number of a column's letters, counted from one: each letter is a digit from 1 to 26. -/
def lettersValue (letters : List Char) : Nat :=
  letters.foldl (fun n c => 26 * n + (c.toNat - 64)) 0

/-- A capital letter of a column name. -/
def isLetter (c : Char) : Bool := 'A' ≤ c && c ≤ 'Z'

/-- The cell a name stands for: capital letters, then digits; the row is counted from one and
may have leading zeros. -/
def ofChars? (text : List Char) : Option Cell :=
  let letters := text.takeWhile fun c => !Text.isDigitAscii c
  let digits := text.dropWhile fun c => !Text.isDigitAscii c
  if letters ≠ [] ∧ letters.all isLetter then
    (Number.digits? 4294967296 digits).bind fun row =>
      if row = 0 then none else ofNat? (row - 1) (lettersValue letters - 1)
  else none

/-- The cell a name stands for. -/
def ofName? (text : String) : Option Cell := ofChars? text.toList

end Cell

end SheetReport
