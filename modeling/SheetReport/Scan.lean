import SheetReport.Error
import SheetReport.Sheet.Grid

/-!
# Looking for tags

All searches visit the occupied cells row by row.
-/

namespace SheetReport

namespace Grid

/-- The cells whose printed value passes a test. -/
def findAll (g : Grid) (test : String → Bool) : List Cell :=
  (g.entries.filter fun e => test e.2.print).map Prod.fst

/-- The first cell whose printed value passes a test. -/
def find? (g : Grid) (test : String → Bool) : Option Cell :=
  (g.entries.find? fun e => test e.2.print).map Prod.fst

/-- The first cell whose text is the anchor of a name. -/
def findAnchor? (g : Grid) (name : String) : Option Cell :=
  (g.entries.find? fun e => e.2.text? == some (Tag.anchor name).text).map Prod.fst

/-- The cells that look like a tag. -/
def tagCells (g : Grid) : List Cell := g.findAll Tag.looksLikeTag

/-- The tags among a list of cells; fails at the first text that is rejected as a tag. -/
def tagsOf : List (Cell × Value) → Except ReportError (List (Cell × Tag))
  | [] => .ok []
  | (cell, value) :: rest =>
    match value.text? with
    | none => tagsOf rest
    | some text =>
      match Tag.read text with
      | .error error => .error (.undecodableTag cell error)
      | .ok none => tagsOf rest
      | .ok (some tag) => (tagsOf rest).map ((cell, tag) :: ·)

/-- The tags of all cells. -/
def tags (g : Grid) : Except ReportError (List (Cell × Tag)) := tagsOf g.entries

end Grid

/-- The places that a template marks. -/
structure Anchors where
  dataStart : Cell
  dataEnd : Cell
  headerStart : Cell
deriving DecidableEq, Repr

/-- The structural anchors of a grid; all missing ones are reported at once. -/
def Grid.anchors (g : Grid) : Except ReportError Anchors :=
  match g.findAnchor? Tag.dataStart, g.findAnchor? Tag.dataEnd, g.findAnchor? Tag.headerStart with
  | some dataStart, some dataEnd, some headerStart => .ok ⟨dataStart, dataEnd, headerStart⟩
  | _, _, _ => .error (.missingAnchor (Tag.structural.filter fun n => (g.findAnchor? n).isNone))

end SheetReport
