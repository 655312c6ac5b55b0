import SheetReport.Style.Format
import SheetReport.Xml.Event

/-!
# The sheet part of a workbook

Of a sheet part, custom column widths and the formats of cells are read. A later element
overrides an earlier one, and an element that lacks what it needs is passed over.
-/

namespace SheetReport.SheetPart

open Xml (Element Event Fault)

/-- Set the widths of `count` columns from `first` on. -/
def setWidths (first : Nat) (width : Float) :
    Nat → OrderedMap Nat Float → OrderedMap Nat Float
  | 0, widths => widths
  | count + 1, widths => setWidths first width count (widths.insert (first + count) width)

/-- The limit of column numbers. -/
def columnLimit : Nat := 65536

/-- Read the widths of columns; the columns are counted from one, and a range that begins at
zero begins at one. -/
def readColumns (f : SheetFormats) (e : Element) : Except Fault SheetFormats := do
  if !(← e.flag "customWidth" false) then .ok f
  else
    let low ← e.parsed? "min" (Number.nat? columnLimit)
    let high ← e.parsed? "max" (Number.nat? columnLimit)
    let width ← e.parsed? "width" Number.float?
    match low, high, width with
    | some low, some high, some width =>
      let first := max low 1
      .ok { f with widths := setWidths (first - 1) width (high + 1 - first) f.widths }
    | _, _, _ => .ok f

/-- Read the format of a cell; a default format is not kept. -/
def readCell (formats : List CellFormat) (f : SheetFormats) (e : Element) :
    Except Fault SheetFormats := do
  let name ← e.attribute? "r"
  let index ← e.parsed? "s" (Number.nat? 18446744073709551616)
  match name.bind Cell.ofName?, index.bind fun i => formats[i]? with
  | some cell, some format =>
    if format.isDefault then .ok f else .ok { f with cells := f.cells.insert cell format }
  | _, _ => .ok f

/-- Read an element of a sheet part. -/
def readElement (formats : List CellFormat) (f : SheetFormats) (e : Element) :
    Except Fault SheetFormats :=
  match e.localName with
  | "col" => readColumns f e
  | "c" => readCell formats f e
  | _ => .ok f

/-- Read an event of a sheet part. -/
def step (formats : List CellFormat) (f : SheetFormats) : Event → Except Fault SheetFormats
  | .start e | .empty e => readElement formats f e
  | .stop _ => .ok f

/-- The formats in the events of a sheet part. -/
def ofEvents (formats : List CellFormat) (events : List (Except Fault Event)) :
    Except Fault SheetFormats :=
  Xml.foldEvents (step formats) {} events

/-- The formats in a sheet part. -/
def sheetFormats (formats : List CellFormat) (text : String) : Except Fault SheetFormats :=
  ofEvents formats (Xml.events text)

end SheetReport.SheetPart
