import SheetReport.Number.Word
import SheetReport.Workbook.SheetPart

/-!
# Widths of columns in machine words

Reading the formats of a sheet part with 16-bit words for columns. A sheet part counts columns from
one and the widths are kept from zero, so one is subtracted from every column of a range; the range
is gone through up to its last column, and one is added only before that. What does not fit its word
stops the computation for good.
-/

namespace SheetReport.SheetPart

open Xml (Element Event Fault)

/-- Set the width of the columns from a column up to a last one, both counted from one. -/
def setWidthsInWords (width : Float) (last col : BitVec 16) (widths : OrderedMap Nat Float) :
    Except Overflow (OrderedMap Nat Float) :=
  if last < col then .ok widths
  else
    match Word.sub col 1#16 with
    | .error overflow => .error overflow
    | .ok index =>
      let widths := widths.insert index.toNat width
      if hlast : col < last then
        match hnext : Word.add col 1#16 with
        | .error overflow => .error overflow
        | .ok next =>
          have hless : last.toNat - next.toNat < last.toNat - col.toNat := by
            have hvalue : next.toNat = col.toNat + 1 := Word.toNat_of_add_eq_ok hnext
            have hlt : col.toNat < last.toNat := hlast
            omega
          setWidthsInWords width last next widths
      else .ok widths
termination_by last.toNat - col.toNat

/-- Set the width of the columns of a range that a sheet part counts from one; a range that begins
at zero begins at one. -/
def setRangeInWords (width : Float) (low high : BitVec 16) (widths : OrderedMap Nat Float) :
    Except Overflow (OrderedMap Nat Float) :=
  setWidthsInWords width high (if low < 1#16 then 1#16 else low) widths

/-- Read the widths of columns. -/
def readColumnsInWords (f : SheetFormats) (e : Element) :
    ExceptT Fault (Except Overflow) SheetFormats := do
  if !(← e.flag "customWidth" false) then return f
  let low ← e.parsed? "min" (Number.nat? columnLimit)
  let high ← e.parsed? "max" (Number.nat? columnLimit)
  let width ← e.parsed? "width" Number.float?
  match low, high, width with
  | some low, some high, some width =>
    let widths ← setRangeInWords width (.ofNat 16 low) (.ofNat 16 high) f.widths
    return { f with widths := widths }
  | _, _, _ => return f

/-- Read an element of a sheet part. -/
def readElementInWords (formats : List CellFormat) (f : SheetFormats) (e : Element) :
    ExceptT Fault (Except Overflow) SheetFormats :=
  match e.localName with
  | "col" => readColumnsInWords f e
  | _ => readElement formats f e

/-- Read an event of a sheet part. -/
def stepInWords (formats : List CellFormat) (f : SheetFormats) :
    Event → ExceptT Fault (Except Overflow) SheetFormats
  | .start e | .empty e => readElementInWords formats f e
  | .stop _ => pure f

/-- Read events of a sheet part one after another. -/
def readEventsInWords (formats : List CellFormat) :
    SheetFormats → List (Except Fault Event) → ExceptT Fault (Except Overflow) SheetFormats
  | f, [] => pure f
  | f, event :: rest => do readEventsInWords formats (← stepInWords formats f (← event)) rest

/-- The formats in a sheet part. -/
def sheetFormatsInWords (formats : List CellFormat) (text : String) :
    Except Overflow (Except Fault SheetFormats) :=
  (readEventsInWords formats {} (Xml.events text)).run

end SheetReport.SheetPart
