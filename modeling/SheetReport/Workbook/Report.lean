import SheetReport.Calendar.Serial
import SheetReport.Style.Plan
import SheetReport.Workbook.Error
import SheetReport.Workbook.StoredFormula
import SheetReport.Workbook.StoredText
import SheetReport.Workbook.Width

/-!
# Storing reports

A report is stored as a workbook of one sheet. Every occupied or formatted cell outside merged
ranges is written with its own format; a merged range shows the value of its first cell and
has one format. The format of a cell is its template format with its style on top; a date
takes the date format of the report in place of its number format.

A stored sheet has fewer rows and columns than a grid, limits the length of texts, and has no
cell that is not a number. Custom number formats are numbered as they come, so that a
predefined number beyond the usual ones may stand for one of them.
-/

namespace SheetReport

namespace StyledFormat

/-- A colour, if it is one. -/
def color? (c : Nat) : Option Nat := if c ≤ 0xffffff then some c else none

/-- The number format as it is stored; the general format is none. -/
def number? : Option NumberFormat → Option NumberFormat
  | some (.builtin 0) | some (.custom "") | none => none
  | some f => some f

/-- The default font. -/
def defaultFont : Font := { name := some "Calibri", size := some 11 }

/-- The font as it is stored; the default font is none. -/
def font? (f : Font) : Option Font :=
  let full : Font :=
    { f with
      name := f.name.or defaultFont.name
      size := f.size.or defaultFont.size
      color := f.color.bind color? }
  if full = defaultFont then none else some full

/-- The horizontal alignment as it is stored; the general one is none. -/
def horizontal? (vertical : Bool) (a : Option HorizontalAlign) : Option HorizontalAlign :=
  if vertical then some .center else if a = some .general then none else a

/-- The vertical alignment as it is stored; the bottom is none. -/
def vertical? (vertical : Bool) (a : Option VerticalAlign) : Option VerticalAlign :=
  if vertical then some .center else if a = some .bottom then none else a

/-- The stored format of a cell with a template format and a style. -/
def format (dateFormat : String) (style : CellStyle) (base : CellFormat) : CellFormat :=
  let font := base.font.getD {}
  { number := number? (if style.date then some (.custom dateFormat) else base.number)
    font := font? { font with bold := font.bold || style.bold }
    fill := (style.fill.bind color?).or (base.fill.bind color?)
    horizontal := horizontal? style.vertical base.horizontal
    vertical := vertical? style.vertical base.vertical
    wrap := base.wrap }

/-- A stored cell without content, with a template format and a style. -/
def cell (dateFormat : String) (style : CellStyle) (base : CellFormat) : StoredCell :=
  let f := format dateFormat style base
  { content := .blank
    format := f
    isTime := TimeFormat.isTime f.number
    border := style.border
    rotation := if style.vertical then 90 else 0 }

end StyledFormat

namespace StoredSheet

/-- The longest text of a cell. -/
def maxText : Nat := 32767

/-- The rows of a stored sheet. -/
def rowCount : Nat := 1048576

/-- The columns of a stored sheet. -/
def columnCount : Nat := 16384

/-- Whether a stored sheet has a cell. -/
def hasCell (c : Cell) : Bool := c.row < rowCount && c.col < columnCount

/-- The characters that no name of a sheet has. -/
def nameBreaks : List Char := ['[', ']', ':', '*', '?', '/', '\\']

/-- Whether a text can be the name of a sheet: neither empty nor long, without some marks, and
without an apostrophe at its ends. -/
def isName (name : String) : Bool :=
  let chars := name.toList
  !chars.isEmpty && chars.length ≤ 31 && chars.all (fun c => !nameBreaks.contains c) &&
    chars.head? != some '\'' && chars.getLast? != some '\''

/-- A text as content: what is read where it was written. -/
def textContent (s : String) : Content :=
  match StoredText.readBack? s with
  | some text => .text text
  | none => .unreadable

/-- A value written to a cell; none if its text is too long. What is not a number is written as
a text without format, and a formula of a range has no format either. -/
def writeValue? (c : StoredCell) : Value → Option StoredCell
  | .empty => some c
  | .text s =>
    if s = "" then some c
    else if maxText < s.length then none
    else some { c with content := textContent s }
  | .number x =>
    if Number.kind x = .nan then some { content := .text "#NUM!" }
    else some { c with content := .number x }
  | .bool b => some { c with content := .bool b }
  | .date d => some { c with content := .number d.serial }
  | .dateTime t => some { c with content := .number t.serial }
  | .formula s =>
    let content := Content.formula (StoredFormula.stored s) (some (0 : Float))
    if StoredFormula.isRange s then some { content := content }
    else some { c with content := content }

/-- The cells that are written one by one: occupied, styled or formatted ones outside merged
ranges. -/
def singleCells (g : Grid) (p : StylePlan) : List Cell :=
  let all : OrderedMap Cell Unit :=
    .ofList ((p.base.keys ++ p.styles.keys ++ g.entries.map Prod.fst).map fun c => (c, ()))
  all.keys.filter fun c => (p.mergeAt? c).isNone

/-- A cell of its own. -/
def single? (g : Grid) (p : StylePlan) (c : Cell) : Option (Cell × StoredCell) :=
  if hasCell c then
    let value := g.get c
    let style := p.styleOf c
    let style := { style with date := style.date || value.isDate }
    (writeValue? (StyledFormat.cell p.dateFormat style ((p.baseOf? c).getD {})) value).map (c, ·)
  else none

/-- The format of a merged range. -/
def mergedCell (p : StylePlan) (e : Extent) : StoredCell :=
  StyledFormat.cell p.dateFormat (p.mergedStyle e) ((p.baseOf? e.first).getD {})

/-- Whether a range can be merged: inside the sheet and larger than one cell. -/
def canMerge (e : Extent) : Bool :=
  hasCell e.first && hasCell e.last && e.first.row ≤ e.last.row && e.first.col ≤ e.last.col &&
    e.first != e.last

/-- The cells of a merged range. -/
def merged? (g : Grid) (p : StylePlan) (e : Extent) : Option (List (Cell × StoredCell)) :=
  let blank := mergedCell p e
  (writeValue? blank (g.get e.first)).map fun first =>
    e.cells.map fun c => (c, if c = e.first then first else blank)

/-- Whether no range overlaps a later one. -/
def areDisjoint : List Extent → Bool
  | [] => true
  | e :: rest => !rest.any e.overlaps && areDisjoint rest

/-- Whether a cell shows anything; others are not stored. -/
def isShown (c : StoredCell) : Bool :=
  c.content != .blank || !c.format.isDefault || c.border != {} || c.rotation != 0

/-- The number of the first custom number format. -/
def firstCustom : Nat := 164

/-- The codes of custom number formats among cells, in the order of their numbers. -/
def customCodes (cells : List (Cell × StoredCell)) : List String :=
  (cells.filterMap fun c =>
    match c.2.format.number with
    | some (.custom code) => some code
    | _ => none).eraseDups

/-- A cell whose predefined number format is a custom one of the same number, if there is
one. -/
def renumber (codes : List String) (c : StoredCell) : StoredCell :=
  match c.format.number with
  | some (.builtin index) =>
    match if firstCustom ≤ index then codes[index - firstCustom]? else none with
    | some code =>
      let number := some (NumberFormat.custom code)
      { c with format := { c.format with number := number }, isTime := TimeFormat.isTime number }
    | none => c
  | _ => c

/-- Cells as they are stored: those that show anything, with their number formats settled. -/
def storedCells (cells : List (Cell × StoredCell)) : OrderedMap Cell StoredCell :=
  let codes := customCodes cells
  .ofList ((cells.filter fun c => isShown c.2).map fun c => (c.1, renumber codes c.2)).reverse

/-- The values that are written, for the fitting of columns. -/
def writtenValues (g : Grid) (p : StylePlan) : List (Cell × Value) :=
  g.entries.filter fun e => (p.mergeAt? e.1).all fun m => m.first = e.1

/-- The sheet of a report. `isPicture` tells which paths lead to pictures. -/
def ofReport? (name : String) (g : Grid) (p : StylePlan) (isPicture : String → Bool) :
    Option StoredSheet := do
  let singles ← (singleCells g p).mapM (single? g p)
  let pictureStored := p.image.all fun i => isPicture i.2 && hasCell i.1
  let columnsStored := p.widths.keys.all (· < columnCount)
  if isName name && p.merges.all canMerge && areDisjoint p.merges && pictureStored &&
      columnsStored then
    let merged ← p.merges.mapM (merged? g p)
    some
      { name := name
        cells := storedCells (singles ++ merged.flatten)
        widths := Width.storedAll p.widths (writtenValues g p)
        merges := p.merges
        picture := p.image.map Prod.fst }
  else none

end StoredSheet

/-- The workbook of a report. -/
def Workbook.ofReport (name : String) (g : Grid) (p : StylePlan) (isPicture : String → Bool) :
    Except WorkbookError Workbook :=
  match StoredSheet.ofReport? name g p isPicture with
  | some sheet => .ok { sheets := [sheet] }
  | none => .error .write

end SheetReport
