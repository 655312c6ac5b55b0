import SheetReport.Workbook.Error
import SheetReport.Workbook.SheetPart
import SheetReport.Workbook.StylePart

/-!
# Packages

A workbook file is a package of named parts. The formats of its first sheet are found through
the list of sheets and the relationships of the workbook part.
-/

namespace SheetReport

open Xml (Element Event Fault)

/-- The parts of a package by name. -/
structure Package where
  parts : OrderedMap String String

namespace Package

/-- The text of a part. -/
def part (p : Package) (name : String) : Except WorkbookError String :=
  match p.parts.get? name with
  | some text => .ok text
  | none => .error .zip

/-- The identifier of the first sheet in the events of a workbook part. -/
def firstSheetId? : List (Except Fault Event) → Except Fault (Option String)
  | [] => .ok none
  | .error fault :: _ => .error fault
  | .ok (.stop _) :: rest => firstSheetId? rest
  | .ok (.start e) :: rest | .ok (.empty e) :: rest =>
    if e.localName = "sheet" then e.attribute? "id" else firstSheetId? rest

/-- The name of the part that a relationship leads to. -/
def targetPart (target : String) : String :=
  match target.toList with
  | '/' :: absolute => String.ofList absolute
  | _ => "xl/" ++ target

/-- The part that the relationship of an identifier leads to. -/
def relatedPart? (id : String) : List (Except Fault Event) → Except Fault (Option String)
  | [] => .ok none
  | .error fault :: _ => .error fault
  | .ok (.stop _) :: rest => relatedPart? id rest
  | .ok (.start e) :: rest | .ok (.empty e) :: rest =>
    if e.localName = "Relationship" then
      match e.attribute? "Id" with
      | .error fault => .error fault
      | .ok found =>
        if found = some id then (e.attribute? "Target").map (·.map targetPart)
        else relatedPart? id rest
    else relatedPart? id rest

/-- The part of the first sheet, from the workbook part and its relationships. -/
def firstSheetPart? (workbook relationships : String) : Except Fault (Option String) :=
  match firstSheetId? (Xml.events workbook) with
  | .error fault => .error fault
  | .ok none => .ok none
  | .ok (some id) => relatedPart? id (Xml.events relationships)

/-- The formats that the styles part lists; a package without that part has none. -/
def cellFormats (p : Package) : Except WorkbookError (List CellFormat) :=
  match p.parts.get? "xl/styles.xml" with
  | none => .ok []
  | some text => (StylePart.formats text).mapError .ofFault

/-- The formats of the first sheet of the package at a path. -/
def sheetFormats (p : Package) (path : String) : Except WorkbookError SheetFormats := do
  let workbook ← p.part "xl/workbook.xml"
  let relationships ← p.part "xl/_rels/workbook.xml.rels"
  match ← (firstSheetPart? workbook relationships).mapError WorkbookError.ofFault with
  | none => .error (.noWorksheet path)
  | some name =>
    let formats ← p.cellFormats
    let sheet ← p.part name
    (SheetPart.sheetFormats formats sheet).mapError .ofFault

end Package

end SheetReport
