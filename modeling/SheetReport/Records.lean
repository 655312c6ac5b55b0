import SheetReport.Error
import SheetReport.Sheet.Value

/-!
# Records under named columns

A record is a list of values that stand under the columns of its record set by position. A
record may be shorter or longer than the list of columns; a value that is not there reads as
empty. Column names may repeat, and a name stands for its first column.
-/

namespace SheetReport

/-- One row of an input. -/
structure Record where
  values : List Value
deriving DecidableEq, Inhabited

/-- The value at a position. -/
def Record.get (r : Record) (index : Nat) : Value := r.values.getD index .empty

/-- The record with another value at a position it has. -/
def Record.set (r : Record) (index : Nat) (v : Value) : Record := ⟨r.values.set index v⟩

/-- The record cut or filled with empty values to a width. -/
def Record.fit (r : Record) (width : Nat) : Record :=
  ⟨r.values.take width ++ List.replicate (width - r.values.length) .empty⟩

/-- Column names and the records under them. -/
structure Records where
  columns : List String
  records : List Record
deriving DecidableEq, Inhabited

namespace Records

/-- Append a record, fitted to the columns. -/
def push (s : Records) (r : Record) : Records :=
  { s with records := s.records ++ [r.fit s.columns.length] }

/-- Whether there are no records. -/
def isEmpty (s : Records) : Bool := s.records.isEmpty

/-- The position of a column. -/
def index? (s : Records) (column : String) : Option Nat := s.columns.findIdx? (· == column)

/-- The position of a column that has to exist. -/
def require (s : Records) (column : String) : Except ReportError Nat :=
  match s.index? column with
  | some index => .ok index
  | none => .error (.missingColumn column)

/-- The value of a record in a column; empty if there is no such column. -/
def value (s : Records) (r : Record) (column : String) : Value :=
  match s.index? column with
  | some index => r.get index
  | none => .empty

/-- The sum of the numbers in a column, first record first. -/
def sum? (s : Records) (column : String) : Option Float :=
  (s.index? column).map fun index =>
    (s.records.filterMap fun r => (r.get index).number?).foldl (fun sum x => sum + x.toFloat)
      Number.negativeZero

/-- The records without the column at a position. -/
def dropIndex (s : Records) (index : Nat) : Records :=
  ⟨s.columns.eraseIdx index, s.records.map fun r => ⟨r.values.eraseIdx index⟩⟩

/-- The records without a column; none if there is no such column. -/
def dropColumn? (s : Records) (column : String) : Option Records :=
  (s.index? column).map s.dropIndex

/-- The columns of the list that are missing. -/
def missing (s : Records) (required : List String) : List String :=
  required.filter fun column => (s.index? column).isNone

/-- The records with the columns of a list in place of their own, which has to be of the same
length and name existing columns only. Each name takes the values of its first column. -/
def reorder (s : Records) (order : List String) : Except ReportError Records :=
  match order.mapM s.require with
  | .error error => .error error
  | .ok indices =>
    if indices.length = s.columns.length then
      .ok ⟨order, s.records.map fun r => ⟨indices.map r.get⟩⟩
    else
      .error (.missingColumn ((s.columns.find? fun c => !order.contains c).getD ""))

end Records

end SheetReport
