import SheetReport.Number.Word
import SheetReport.Sheet.Cell

/-!
# Names of cells in machine words

Printing and reading the name of a cell with 32-bit words for rows and for the number of a column
while it is read, 16-bit words for columns, and 8-bit words for the code of a letter. Reading
digits and narrowing to 16 bits are checked. What is not checked stops the computation where its
result does not fit.
-/

namespace SheetReport

namespace Cell

/-- The cell at a row and a column. -/
def ofWords (row : BitVec 32) (col : BitVec 16) : Cell := ⟨row.toNat, col.toNat, row.isLt, col.isLt⟩

/-- The letters of the column at a number in front of other letters, last letter first. -/
def lettersInWords (n : BitVec 32) (after : List Char) : Except Overflow (List Char) := do
  let code ← Word.add 65#8 ((n % 26#32).setWidth 8)
  let text := Char.ofNat code.toNat :: after
  if n < 26#32 then return text
  else
    match h : Word.sub (n / 26#32) 1#32 with
    | .error overflow => .error overflow
    | .ok next =>
      have hless : next.toNat < n.toNat := by
        have hnext : next.toNat + 1 = n.toNat / 26 := by simpa using Word.toNat_of_sub_eq_ok h
        omega
      lettersInWords next text
termination_by n.toNat

/-- The name of a cell. -/
def nameInWords (c : Cell) : Except Overflow String := do
  let letters ← lettersInWords ((BitVec.ofNat 16 c.col).setWidth 32) []
  let row ← Word.add (BitVec.ofNat 32 c.row) 1#32
  return String.ofList (letters ++ Number.natDigits row.toNat)

/-- The number of a capital letter, from 1 to 26. -/
def letterInWords (c : Char) : Except Overflow (BitVec 32) := do
  let distance ← Word.sub (Word.ofChar c) (Word.ofChar 'A')
  Word.add distance 1#32

/-- The number of an ASCII digit. -/
def digitInWords (c : Char) : Except Overflow (BitVec 32) :=
  Word.sub (Word.ofChar c) (Word.ofChar '0')

/-- The number of a column, counted from one, if it fits. -/
def columnInWords (letters : List Char) : Except Overflow (Option (BitVec 32)) :=
  Word.numeral? 26#32 letterInWords 0#32 letters

/-- The number of a row, counted from one, if all of its digits are ASCII digits and it fits. -/
def rowInWords (digits : List Char) : Except Overflow (Option (BitVec 32)) :=
  if digits.all Text.isDigitAscii then Word.numeral? 10#32 digitInWords 0#32 digits else .ok none

/-- The cell at a row and a column, both counted from one, if the sheet has it. -/
def fromOneInWords (row col : BitVec 32) : Except Overflow (Option Cell) := do
  let row ← Word.sub row 1#32
  let col ← Word.sub col 1#32
  return (Word.narrow? 16 col).map (ofWords row)

/-- The cell a name stands for. -/
def ofNameInWords (text : String) : Except Overflow (Option Cell) := do
  let letters := text.toList.takeWhile fun c => !Text.isDigitAscii c
  let digits := text.toList.dropWhile fun c => !Text.isDigitAscii c
  if digits = [] ∨ letters = [] ∨ letters.all isLetter = false then return none
  let some col ← columnInWords letters | return none
  let some row ← rowInWords digits | return none
  if row = 0#32 then return none
  fromOneInWords row col

end Cell

end SheetReport
