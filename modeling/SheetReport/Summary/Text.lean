import SheetReport.Number.Text
import SheetReport.Summary

/-!
# Summaries as text

A block of lines for each input between dividers, and the counts at the end. The names on the
left are filled with blanks to one width.
-/

namespace SheetReport

/-- A text filled with blanks up to a width. -/
def Text.padRight (width : Nat) (s : String) : String :=
  s ++ String.ofList (List.replicate (width - s.length) ' ')

namespace Summary

/-- The line between blocks. -/
def divider : String := "----------------------------------------"

/-- The width of the names on the left. -/
def nameWidth : Nat := 30

/-- A name and its value. -/
def entryLine (name value : String) : String := Text.padRight nameWidth name ++ ": " ++ value

/-- The lines about the report of an input, or about its failure. -/
def detailLines (r : ReportSummary) : List String :=
  match r.error with
  | some error => [entryLine "Error" error]
  | none =>
    entryLine "Order ID" (r.orderId.getD "-") ::
      r.totals.entries.map fun e => entryLine ("Total " ++ e.1) (Number.plain e.2)

/-- The lines about one input. -/
def block (r : ReportSummary) : List String :=
  entryLine "Report Name" r.report :: detailLines r ++ [divider]

/-- The lines of a summary. -/
def lines (s : RunSummary) : List String :=
  if s.reports.isEmpty then ["No inputs found."]
  else
    ["Check that these totals match those in the formatted reports.",
      "Rows removed during cleaning are not counted.", divider] ++
    s.reports.flatMap block ++ [s!"{s.formatted} formatted, {s.failed} failed"]

end Summary

/-- A summary as text. -/
def RunSummary.text (s : RunSummary) : String :=
  String.join ((Summary.lines s).map fun line => line ++ "\n")

end SheetReport
