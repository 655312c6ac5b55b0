import SheetReport.Report.Group
import SheetReport.Report.Layout
import SheetReport.Report.Markup
import SheetReport.Report.Resolution

/-!
# Assembling a report

Records are grouped and laid out in a template, aggregates are resolved, placeholders are
filled and remaining tags are cleared. Either all of this succeeds or the template stays as
it is.
-/

namespace SheetReport

/-- The settings of an assembly. -/
structure AssemblyRules where
  grouping : GroupingRules := {}
  kinds : ColumnKinds := {}
deriving DecidableEq, Repr

/-- What an assembly did. -/
structure Outcome where
  extent : Extent
  groups : Nat
  subtotalledGroups : Nat
  resolution : Resolution
  /-- The placeholders that were filled. -/
  placeholders : List (Cell × String)
  /-- The tags that were cleared. -/
  stripped : List (Cell × String)
deriving DecidableEq

/-- Assembles reports by its rules. -/
structure Assembler where
  grouper : Grouper
  kinds : ColumnKinds

namespace Assembler

/-- The assembler for a set of rules; none if a pattern is invalid. -/
def ofRules? (rules : AssemblyRules) : Option Assembler :=
  (Grouper.ofRules? rules.grouping).map fun grouper => ⟨grouper, rules.kinds⟩

/-- Lay out groups and resolve their aggregates. -/
def compose (a : Assembler) (g : Grid) (columns : List String) (groups : List Group) :
    Except ReportError (Grid × Extent × Resolution) :=
  match Layout.render g columns (groups.map Group.records) with
  | (_, .error error) => .error error
  | (g, .ok extent) =>
    (Resolution.resolve g extent a.kinds).map fun (g, resolution) => (g, extent, resolution)

/-- Assemble a report from records in a template. -/
def run (a : Assembler) (template : Grid) (records : Records) (placeholders : Placeholders) :
    Except ReportError (Grid × Outcome) := do
  let _ ← template.anchors
  let groups ← a.grouper.build records
  let (g, extent, resolution) ← a.compose template records.columns groups
  let (g, filled) := Markup.fill g placeholders
  let (g, stripped) := Markup.strip g
  .ok (g,
    { extent := extent
      groups := groups.length
      subtotalledGroups := (groups.filter Group.isSubtotalled).length
      resolution := resolution
      placeholders := filled
      stripped := stripped })

/-- Assemble a report in place: a grid takes the report, or stays as it is if there is none. -/
def runIn (a : Assembler) (g : Grid) (records : Records) (placeholders : Placeholders) :
    Grid × Except ReportError Outcome :=
  match a.run g records placeholders with
  | .ok (report, outcome) => (report, .ok outcome)
  | .error error => (g, .error error)

end Assembler

end SheetReport
