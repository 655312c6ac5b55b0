import SheetReport.Calendar.Text
import SheetReport.Number.Text

/-!
# Values of cells

A cell or a field of a record is empty or holds text, a number, a truth value, a date, a
moment or a formula, which is kept as text and never evaluated. Values have a printed form and
a total order: numbers first, then truth values, dates and moments together by instant, texts,
formulas, and empty values last.
-/

namespace SheetReport

open Calendar (Date DateTime)

/-- The value of a cell or of a record's field. -/
inductive Value where
  | empty
  | text (s : String)
  | number (x : Double)
  | bool (b : Bool)
  | date (d : Date)
  | dateTime (t : DateTime)
  /-- A formula with its leading `=`. -/
  | formula (s : String)
deriving DecidableEq, Inhabited

namespace Value

/-- Whether there is nothing. -/
def isEmpty : Value → Bool
  | .empty => true
  | _ => false

/-- The text of a text value. -/
def text? : Value → Option String
  | .text s => some s
  | _ => none

/-- The number of a number value. -/
def number? : Value → Option Double
  | .number x => some x
  | _ => none

/-- Whether the value is a date or a moment. -/
def isDate : Value → Bool
  | .date _ | .dateTime _ => true
  | _ => false

/-- The printed form. -/
def print : Value → String
  | .empty => ""
  | .text s => s
  | .formula s => s
  | .number x => Number.plain x
  | .bool true => "TRUE"
  | .bool false => "FALSE"
  | .date d => d.text
  | .dateTime t => t.text

/-- The place of a kind of value in the order. -/
def kindRank : Value → Nat
  | .number _ => 0
  | .bool _ => 1
  | .date _ | .dateTime _ => 2
  | .text _ => 3
  | .formula _ => 4
  | .empty => 5

/-- The order of values. -/
def compare : Value → Value → Ordering
  | .number a, .number b => Ord.compare (Number.rank a) (Number.rank b)
  | .bool a, .bool b => Ord.compare a b
  | .text a, .text b => Ord.compare a b
  | .formula a, .formula b => Ord.compare a b
  | .date a, .date b => a.midnight.compare b.midnight
  | .date a, .dateTime b => a.midnight.compare b
  | .dateTime a, .date b => a.compare b.midnight
  | .dateTime a, .dateTime b => a.compare b
  | a, b => Ord.compare a.kindRank b.kindRank

end Value

end SheetReport
