import SheetReport.OrderedMap

/-!
# Summaries

What a run tells about each of its inputs: the report that was made of it with its order and
the totals of its count columns, or why there is none.
-/

namespace SheetReport

/-- What became of one input. -/
structure ReportSummary where
  input : String
  /-- The name of the output file. -/
  report : String
  orderId : Option String := none
  /-- The sums of the count columns over the cleaned records. -/
  totals : OrderedMap String Float := .empty
  error : Option String := none
deriving DecidableEq, Inhabited

namespace ReportSummary

/-- The summary of an input without a report. The causes of the failure come innermost first. -/
def failed (input report : String) (causes : List String) : ReportSummary :=
  { input := input, report := report, error := some (": ".intercalate causes.reverse) }

/-- Whether there is a report. -/
def isSuccess (s : ReportSummary) : Bool := s.error.isNone

end ReportSummary

/-- The summaries of all inputs of a run. -/
structure RunSummary where
  reports : List ReportSummary
deriving DecidableEq, Inhabited

namespace RunSummary

/-- The number of inputs with a report. -/
def formatted (s : RunSummary) : Nat := s.reports.countP ReportSummary.isSuccess

/-- The number of inputs without a report. -/
def failed (s : RunSummary) : Nat := s.reports.countP fun r => !r.isSuccess

/-- The exit code of a run: zero exactly if there is a report of every input. -/
def exitCode (s : RunSummary) : Nat := if s.failed = 0 then 0 else 1

/-- Every input is counted once. -/
theorem formatted_add_failed (s : RunSummary) : s.formatted + s.failed = s.reports.length := by
  simp only [formatted, failed]
  induction s.reports with
  | nil => rfl
  | cons r rest ih => cases h : r.isSuccess <;> simp [h] <;> omega

end RunSummary

end SheetReport
