import SheetReport.Calendar.Date
import SheetReport.Number.Text
import SheetReport.Workbook.Sheet

/-!
# Column widths

A digit is seven pixels wide and a column has five pixels of padding. Stored widths count
digits with the padding in steps of 1/256. A column without a width of its own is fitted to
its widest text.
-/

namespace SheetReport.Width

/-- A number rounded to an integer; values that are no finite number stay. -/
def rounded (x : Float) : Float := ((Number.round? x).map Number.ofInt).getD x

/-- A number rounded down to a multiple of 1/256. -/
def toStep (x : Float) : Float :=
  match Number.floor? (x * 256) with
  | some n => Number.ofInt n / 256
  | none => x

/-- The number of digits that fit in a column, from its stored width. -/
def digitsOf (stored : Float) : Float :=
  let digits := (rounded (stored * 7) - 5) / 7
  if 0 < digits then digits else 0

/-- The widest column, in digits. -/
def maxDigits : Float := 255

/-- The stored width of a column in which a number of digits fits. -/
def stored (digits : Float) : Float :=
  let digits := if maxDigits < digits then maxDigits else digits
  if digits < 1 then toStep (rounded (digits * 12) / 7)
  else toStep ((rounded (digits * 7) + 5) / 7)

/-- The pixels of the printable ASCII characters, in their order. -/
def asciiPixels : List Nat :=
  [3, 5, 6, 7, 7, 11, 10, 3, 5, 5, 7, 7, 4, 5, 4, 6, 7, 7, 7, 7, 7, 7, 7, 7, 7, 7, 4, 4, 7, 7, 7, 7,
   13, 9, 8, 8, 9, 7, 7, 9, 9, 4, 5, 8, 6, 12, 10, 10, 8, 10, 8, 7, 7, 9, 9, 13, 8, 7, 7, 5, 6, 5,
   7, 7, 4, 7, 8, 6, 8, 8, 5, 7, 8, 4, 4, 7, 4, 12, 8, 8, 8, 8, 5, 6, 5, 8, 7, 11, 7, 7, 6, 5, 7, 5,
   7]

/-- The pixels of a character. -/
def charPixels (c : Char) : Nat :=
  if c.toNat < 32 then 8 else asciiPixels.getD (c.toNat - 32) 8

/-- The lines of a text, last character of the last line first. -/
def lines (text : List Char) : List (List Char) :=
  text.foldl
    (fun lines c =>
      if c = '\n' then [] :: lines
      else
        match lines with
        | [] => [[c]]
        | line :: rest => (c :: line) :: rest)
    [[]]

/-- The pixels of the widest line of a text. -/
def textPixels (s : String) : Nat :=
  (lines s.toList).foldl (fun most line => max most (line.foldl (fun n c => n + charPixels c) 0)) 0

/-- The pixels of a value in a report; a formula has no known width. -/
def valuePixels : Value → Nat
  | .empty | .formula _ => 0
  | .text s => textPixels s
  | .number x => 7 * (Number.plain x).length
  | .bool true => 31
  | .bool false => 36
  | .date _ | .dateTime _ => 68

/-- The stored width that fits a number of pixels. -/
def fitted (pixels : Nat) : Float := toStep (Float.ofNat (pixels + 7) / 7)

/-- The widths of columns fitted to their widest values. -/
def fit (values : List (Cell × Value)) : OrderedMap Nat Float :=
  let widest : OrderedMap Nat Nat := values.foldl (fun m e =>
    m.insert e.1.col (max ((m.get? e.1.col).getD 0) (valuePixels e.2))) .empty
  .ofList ((widest.entries.filter fun e => 0 < e.2).map fun e => (e.1, fitted e.2))

/-- The stored widths of a sheet: those that are asked for, and fitted ones elsewhere. A column
that is too narrow for anything is hidden; it keeps a fitted width. -/
def storedAll (asked : OrderedMap Nat Float) (values : List (Cell × Value)) :
    OrderedMap Nat Float :=
  asked.entries.foldl
    (fun widths e =>
      let digits := digitsOf e.2
      if digits == 0 then
        if widths.contains e.1 then widths else widths.insert e.1 0
      else widths.insert e.1 (stored digits))
    (fit values)

end SheetReport.Width
