import SheetReport.Main
import SheetReport.Workbook.Package
import SheetReport.Proofs.Tag.Reading
import SheetReport.Proofs.Sheet.Printing
import SheetReport.Proofs.Sequence
import SheetReport.Proofs.Sheet.Writing
import SheetReport.Proofs.Report.RowBlocks
import SheetReport.Proofs.Report.Grouping
import SheetReport.Proofs.Report.Rendering
import SheetReport.Proofs.Report.AggregateTags
import SheetReport.Proofs.Sheet.ColumnCells
import SheetReport.Proofs.Report.Reach
import SheetReport.Proofs.Report.Coverage
import SheetReport.Proofs.Report.Filling
import SheetReport.Proofs.Report.Stages
import SheetReport.Proofs.Report.AggregateCells
import SheetReport.Proofs.Report.Success
import SheetReport.Proofs.Report.Acceptance
import SheetReport.Proofs.Report.Totals
import SheetReport.Proofs.Report.Subtotals
import SheetReport.Proofs.Report.Contents
import SheetReport.Proofs.Report.Summable
import SheetReport.Proofs.Tag.Codec
import SheetReport.Proofs.Report.MaskedRecords
import SheetReport.Proofs.Report.Agreement
import SheetReport.Proofs.Workbook.Stored
import SheetReport.Proofs.Style.Merging
import SheetReport.Proofs.Style.CellStyles
import SheetReport.Proofs.Report.AggregateRows
import SheetReport.Proofs.Style.GroupMerges
import SheetReport.Proofs.Style.AggregateMarks
import SheetReport.Proofs.Records.Table
import SheetReport.Proofs.Records.Cleaning
import SheetReport.Proofs.Records.Reordering
import SheetReport.Proofs.Records.RowHistory
import SheetReport.Proofs.Report.Clearing
import SheetReport.Proofs.Files.Path
import SheetReport.Proofs.Files.Store
import SheetReport.Proofs.Files.Replacing
import SheetReport.Proofs.Run.Report
import SheetReport.Proofs.Run.Output
import SheetReport.Proofs.Run.AllOrNothing
import SheetReport.Proofs.Run.Discovery
import SheetReport.Proofs.Run.Independence
import SheetReport.Proofs.Run.Reports
import SheetReport.Proofs.Workbook.Reading
import SheetReport.Proofs.Workbook.RoundTrip
import SheetReport.Proofs.Workbook.DateFormats
import SheetReport.Proofs.Sorting
import SheetReport.Proofs.Sheet.ValueOrder
import SheetReport.Proofs.Report.GroupOrder
import SheetReport.Proofs.Report.InputOrder
import SheetReport.Proofs.Report.RowGrammar
import SheetReport.Proofs.Report.ExactCover
import SheetReport.Proofs.Report.Ambiguity
import SheetReport.Proofs.Report.Replacement
import SheetReport.Proofs.Tag.Grammar
import SheetReport.Number.Word
import SheetReport.Sheet.NameInWords
import SheetReport.Proofs.Sheet.Naming
import SheetReport.Proofs.Sheet.NamingInWords
import SheetReport.Proofs.Style.CarriedFormats
import SheetReport.Proofs.Workbook.StyleSections
import SheetReport.Proofs.Workbook.RecordRows
import SheetReport.Proofs.Records.KeptColumns
import SheetReport.Proofs.Sheet.ValuePreorder
import SheetReport.Proofs.Report.Substitution
import SheetReport.Proofs.Style.AcceptedMerges
import SheetReport.Proofs.Workbook.WrittenCells
import SheetReport.Proofs.Xml.Attributes
import SheetReport.Workbook.WidthsInWords
import SheetReport.Proofs.Workbook.SheetElements
