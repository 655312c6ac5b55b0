import SheetReport.OrderedMap
import SheetReport.Scan

/-!
# Placeholders and remaining tags

A placeholder is an anchor with a name of its own; it is replaced by the value given for the
name. Whatever still looks like a tag at the end is cleared.
-/

namespace SheetReport

/-- Values for placeholders by name. -/
abbrev Placeholders := OrderedMap String Value

namespace Markup

/-- Replace the first anchor of a name by a value. Structural anchors are never replaced. -/
def fillOne (g : Grid) (name : String) (value : Value) : Grid × Option (Cell × String) :=
  if Tag.structural.contains name then (g, none)
  else
    match g.findAnchor? name with
    | some cell => (g.set cell value, some (cell, name))
    | none => (g, none)

/-- Replace placeholders one after another, and list the cells that were replaced. -/
def fillList (g : Grid) : List (String × Value) → Grid × List (Cell × String)
  | [] => (g, [])
  | (name, value) :: rest =>
    let (g, filled) := fillOne g name value
    let (g, others) := fillList g rest
    (g, filled.toList ++ others)

/-- Replace placeholders in the order of their names. -/
def fill (g : Grid) (values : Placeholders) : Grid × List (Cell × String) :=
  fillList g values.entries

/-- The cells that look like a tag, with their texts. -/
def remaining (g : Grid) : List (Cell × String) :=
  (g.entries.filter fun e => Tag.looksLikeTag e.2.print).map fun e => (e.1, e.2.print)

/-- Clear the cells that look like a tag, and list them with their texts. -/
def strip (g : Grid) : Grid × List (Cell × String) :=
  let cells := remaining g
  (cells.foldl (fun g e => g.clear e.1) g, cells)

end Markup

end SheetReport
