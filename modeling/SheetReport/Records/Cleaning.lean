import SheetReport.Records

/-!
# Cleaning records

Steps that prepare records for a report. A step whose column is missing does nothing, and no
step removes every record.
-/

namespace SheetReport

/-- Whether a text contains another one. -/
def Text.containsChars (part : List Char) : List Char → Bool
  | [] => part.isEmpty
  | c :: rest => part.isPrefixOf (c :: rest) || Text.containsChars part rest

/-- A change to all records. -/
inductive CleaningStep where
  /-- Remove the records whose printed value in the column is `value`, or contains it if not
  `exact`. Nothing is removed if no record would be left. -/
  | dropRows (column value : String) (exact : Bool)
  /-- Empty the numbers up to a threshold. -/
  | clearAtOrBelow (column : String) (threshold : Float)
  /-- Replace one text by another. -/
  | replace (column old new : String)
  /-- Replace a text by the value of the `source` column, unless that is the text `unless`. -/
  | replaceFrom (column old source unwanted : String)
  /-- Drop all other columns. -/
  | keepColumns (columns : List String)
  /-- Drop the time of moments. -/
  | datesOnly (column : String)
  /-- Reorder the columns, if the list names exactly them. -/
  | reorder (columns : List String)

namespace CleaningStep

/-- Whether a record is one that a `dropRows` step removes. -/
def matchesRow (value : String) (exact : Bool) (index : Nat) (r : Record) : Bool :=
  let text := (r.get index).print
  if exact then text == value else Text.containsChars value.toList text.toList

/-- Remove the records that match, unless all of them do. -/
def dropMatching (matching : Record → Bool) (records : List Record) : List Record :=
  if records.all matching then records else records.filter fun r => !matching r

/-- Change the value of each record at a position. -/
def edit (index : Nat) (change : Record → Value → Value) (s : Records) : Records :=
  { s with records := s.records.map fun r => r.set index (change r (r.get index)) }

/-- The value without a number up to a threshold. -/
def clearedAtOrBelow (threshold : Float) : Value → Value
  | .number x => if x.toFloat ≤ threshold then .empty else .number x
  | v => v

/-- The value, or another one in place of a text. -/
def replaced (old : String) (new v : Value) : Value :=
  if v.text? = some old then new else v

/-- The value, or that of the source in place of a text. -/
def replacedFrom (old unwanted : String) (source v : Value) : Value :=
  if v.text? = some old ∧ source.text? ≠ some unwanted then source else v

/-- The date of a moment; other values are kept. -/
def dateOnly : Value → Value
  | .dateTime t => .date t.date
  | v => v

/-- The records without one column, if it is there. -/
def dropColumn (s : Records) (column : String) : Records := (s.dropColumn? column).getD s

/-- Change the column of a name, if it is there. -/
def onColumn (column : String) (change : Nat → Records → Records) (s : Records) : Records :=
  match s.index? column with
  | some index => change index s
  | none => s

/-- Apply one step. -/
def apply (step : CleaningStep) (s : Records) : Records :=
  match step with
  | .dropRows column value exact =>
    onColumn column (fun index s =>
      { s with records := dropMatching (matchesRow value exact index) s.records }) s
  | .clearAtOrBelow column threshold =>
    onColumn column (fun index => edit index fun _ => clearedAtOrBelow threshold) s
  | .replace column old new =>
    onColumn column (fun index => edit index fun _ => replaced old (.text new)) s
  | .replaceFrom column old source unwanted =>
    onColumn column (fun index => onColumn source fun sourceIndex =>
      edit index fun r => replacedFrom old unwanted (r.get sourceIndex)) s
  | .keepColumns keep =>
    (s.columns.filter fun c => !keep.contains c).foldl dropColumn s
  | .datesOnly column => onColumn column (fun index => edit index fun _ => dateOnly) s
  | .reorder order =>
    match s.reorder order with
    | .ok reordered => reordered
    | .error _ => s

/-- Apply steps one after another. -/
def applyAll (steps : List CleaningStep) (s : Records) : Records :=
  steps.foldl (fun s step => step.apply s) s

/-- The records after each of a list of steps. -/
def states : List CleaningStep → Records → List Records
  | [], _ => []
  | step :: rest, s => step.apply s :: states rest (step.apply s)

end CleaningStep

end SheetReport
