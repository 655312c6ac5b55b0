import SheetReport.Records

/-!
# The rows of a report

Each group is given by its records. A group of several records stands between blank rows and
has a subtotal row below its records; a single record is one row. A blank row, the total row
and a decorative row close the report.
-/

namespace SheetReport

/-- A row before it is written. -/
inductive PlannedRow where
  | data (r : Record)
  | blank
  | subtotal (size : Nat)
  | total
  | decorative
deriving DecidableEq

namespace PlannedRow

/-- What the last planned row is, as far as the next rows depend on it. -/
inductive Last where
  | none
  | data
  | blank
deriving DecidableEq, Repr

/-- The last row after the rows of a group. -/
def Last.after (last : Last) : List Record → Last
  | [] => last
  | [_] => .data
  | _ :: _ :: _ => .blank

/-- The blank row before a group of several records that follows a record. -/
def separator (last : Last) (group : List Record) : List PlannedRow :=
  if last = .data ∧ 1 < group.length then [.blank] else []

/-- The subtotal row of a group of several records, and a blank row. -/
def closing (group : List Record) : List PlannedRow :=
  if 1 < group.length then [.subtotal group.length, .blank] else []

/-- The blank row before the total row, unless there is one. -/
def finalBlank (last : Last) : List PlannedRow := if last = .blank then [] else [.blank]

/-- The rows of the remaining groups after what was planned so far. -/
def planFrom (last : Last) : List (List Record) → List PlannedRow
  | [] => finalBlank last ++ [.total, .decorative]
  | group :: rest =>
    separator last group ++ group.map .data ++ closing group ++ planFrom (last.after group) rest

/-- The rows of a report. -/
def plan (groups : List (List Record)) : List PlannedRow := planFrom .none groups

end PlannedRow

end SheetReport
