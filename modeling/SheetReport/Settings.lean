import SheetReport.Files.Store
import SheetReport.Records.Cleaning
import SheetReport.Style.Plan

/-!
# Settings of a run

What a run of the formatter needs to know: where its files are, which columns it expects and
shows, and how records are cleaned, grouped and styled. Every setting has a default, which
fits delivery reports of advertisements.
-/

namespace SheetReport

/-- The settings of cleaning. -/
structure CleaningRules where
  /-- Goals up to this number count as missing. -/
  goalThreshold : Float := 1000
  goalColumn : String := "Goal quantity"
  /-- The column with the sizes of native creatives. -/
  nativeFormatColumn : String := "DAP Native Format"
deriving DecidableEq

/-- The settings of a run. -/
structure Settings where
  /-- The sheet with the records of an input. -/
  sheetName : String := "Report data"
  /-- The directory of the inputs. -/
  inputs : String := "inputs"
  /-- The directory of the outputs. -/
  outputs : String := "outputs"
  template : String := "assets/template.xlsx"
  /-- The picture; it is left out if there is no such file. -/
  icon : Option String := some "assets/icon.png"
  /-- What the name of an output has before that of its input. -/
  outputPrefix : String := "formatted_"
  /-- The columns that every input needs. -/
  requiredColumns : List String :=
    ["Line Item", "Creative", "Delivery Indicator", "Line item start date",
      "Line item end date", "Goal quantity", "Creative Size", "DAP Native Format",
      "Ad server impressions", "Ad server clicks", "Ad server CTR"]
  /-- The columns of a report in their order. -/
  reportColumns : List String :=
    ["Line Item", "Line item start date", "Line item end date", "Goal quantity", "Creative Size",
      "Delivery Indicator", "Ad server impressions", "Ad server clicks", "Ad server CTR"]
  cleaning : CleaningRules := {}
  assembly : AssemblyRules := {}
  style : StyleRules := {}
deriving DecidableEq

namespace Settings

/-- The steps that clean the records of an input: total and test rows go, small goals are
emptied, creative sizes are put right, and the columns of the report are picked and ordered. -/
def cleaningSteps (s : Settings) : List CleaningStep :=
  let grouping := s.assembly.grouping
  [.dropRows grouping.lineItem "Total" true,
    .dropRows grouping.lineItem "TEST" false,
    .clearAtOrBelow s.cleaning.goalColumn s.cleaning.goalThreshold,
    .replace grouping.creativeSize "1 x 1" "pageskin",
    .replaceFrom grouping.creativeSize "Native" s.cleaning.nativeFormatColumn "-",
    .keepColumns s.reportColumns,
    .datesOnly grouping.startDate,
    .datesOnly grouping.endDate,
    .reorder s.reportColumns]

/-- The records of an input as they come into its report. -/
def clean (s : Settings) (records : Records) : Records :=
  CleaningStep.applyAll s.cleaningSteps records

/-- The path of the output of an input. -/
def outputPath (s : Settings) (input : String) : String :=
  Path.join s.outputs (s.outputPrefix ++ (Path.fileName? input).getD "")

/-- The settings of styling, where the picture is that of the run, if there is such a file. -/
def styleRules (s : Settings) (files : FileStore) : StyleRules :=
  { s.style with icon := s.icon.filter fun path => (files.content? path).isSome }

end Settings

end SheetReport
