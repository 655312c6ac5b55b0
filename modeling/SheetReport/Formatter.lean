import SheetReport.Settings.Document
import SheetReport.Summary
import SheetReport.Workbook.Loading
import SheetReport.Workbook.Report

/-!
# Formatting reports

A run finds its inputs, loads the template once and makes a report of every input: the records
are loaded, checked, cleaned, assembled in the template, styled and saved. An input that fails
is told in the summary and does not stop the others.
-/

namespace SheetReport

/-- Why a run does not start, or why there is no report of an input. -/
inductive RunError where
  | inputsUnreadable (directory : String)
  | invalidPattern
  | templateUnreadable (path : String) (error : WorkbookError)
  | templateUnusable (path : String) (error : ReportError)
  | settingsUnreadable (path : String)
  | settingsInvalid (path : String)
  | outputRefused (error : WorkbookError)
  | inputUnreadable (path : String) (error : WorkbookError)
  | columnsMissing (names : List String)
  | notAssembled (input : String) (error : ReportError)
  | notStored (error : WorkbookError)
  | notSaved (path : String) (error : WorkbookError)
deriving DecidableEq

namespace RunError

/-- The causes of an error, innermost first. -/
def causes : RunError → List String
  | .inputsUnreadable directory =>
    [WorkbookError.io.message, "Failed to read inputs directory " ++ directory]
  | .invalidPattern => ["Faulty pattern", "Invalid identifier pattern"]
  | .templateUnreadable path error => [error.message, "Failed to load template " ++ path]
  | .templateUnusable path error => [error.message, "Unusable template " ++ path]
  | .settingsUnreadable path => [WorkbookError.io.message, "Failed to read config " ++ path]
  | .settingsInvalid path => ["Faulty document", "Invalid config " ++ path]
  | .outputRefused error | .notStored error => [error.message]
  | .inputUnreadable path error => [error.message, "Failed to read " ++ path]
  | .columnsMissing names => ["Input is missing required columns: " ++ ", ".intercalate names]
  | .notAssembled input error => [error.message, "Failed to assemble report from " ++ input]
  | .notSaved path error => [error.message, "Failed to save " ++ path]

/-- The outermost cause: what was tried when the error arose. -/
def headline (e : RunError) : String := e.causes.getLastD ""

/-- All causes, outermost first. -/
def message (e : RunError) : String := ": ".intercalate e.causes.reverse

end RunError

/-- Whether a file in the directory of the inputs is an input: neither hidden nor the lock of an
open file. -/
def isInputName (name : String) : Bool :=
  match name.toList with
  | '.' :: _ | '~' :: '$' :: _ => false
  | _ => true

/-- The paths of the inputs in a directory, in the order of their names. -/
def discoverInputs (files : FileStore) (directory : String) : Except RunError (List String) :=
  match files.filesIn? directory with
  | some names => .ok ((names.filter isInputName).map (Path.join directory))
  | none => .error (.inputsUnreadable directory)

/-- What all reports of a run share. -/
structure Formatter where
  settings : Settings
  assembler : Assembler
  template : Template
  style : StyleRules
  /-- Whether outputs may be overwritten. -/
  overwrite : Bool

namespace Formatter

/-- The formatter of a run. -/
def ofSettings (files : FileStore) (s : Settings) (overwrite : Bool) :
    Except RunError Formatter :=
  match Assembler.ofRules? s.assembly with
  | none => .error .invalidPattern
  | some assembler => do
    let template ←
      (files.workbook s.template >>= fun w => w.template s.template).mapError
        (.templateUnreadable s.template)
    let _ ← template.grid.anchors.mapError (.templateUnusable s.template)
    .ok ⟨s, assembler, template, s.styleRules files, overwrite⟩

/-- The order of an input, from its first record. -/
def orderId? (f : Formatter) (raw : Records) : Option String := do
  let index ← raw.index? f.settings.assembly.grouping.lineItem
  let first ← raw.records.head?
  f.assembler.grouper.orderId? (first.get index).print

/-- The totals of the count columns that there are. -/
def totals (f : Formatter) (records : Records) : OrderedMap String Float :=
  .ofList (f.settings.assembly.kinds.count.filterMap fun column =>
    (records.sum? column).map fun sum => (column, sum))

/-- The values for placeholders in the report of an order. -/
def placeholders (f : Formatter) (orderId : Option String) : Placeholders :=
  .ofList (orderId.map fun id => (f.style.orderPlaceholder, Value.text id)).toList

/-- The records of an input, which has all required columns. -/
def load (f : Formatter) (files : FileStore) (input : String) : Except RunError Records := do
  let raw ←
    (files.workbook input >>= fun w => w.records input f.settings.sheetName).mapError
      (.inputUnreadable input)
  match raw.missing f.settings.requiredColumns with
  | [] => .ok raw
  | names => .error (.columnsMissing names)

/-- The report of cleaned records. -/
def compose (f : Formatter) (files : FileStore) (input : String) (orderId : Option String)
    (records : Records) : Except RunError Workbook := do
  let (grid, outcome) ←
    (f.assembler.run f.template.grid records (f.placeholders orderId)).mapError
      (.notAssembled input)
  let plan := StylePlan.build grid outcome f.style f.template.formats
  (Workbook.ofReport f.template.sheetName grid plan files.isPicture).mapError .notStored

/-- The report of an input, with its summary. -/
def report (f : Formatter) (files : FileStore) (input output : String) :
    Except RunError (Workbook × ReportSummary) := do
  let raw ← f.load files input
  let orderId := f.orderId? raw
  let records := f.settings.clean raw
  let workbook ← f.compose files input orderId records
  .ok (workbook,
    { input := input
      report := (Path.fileName? output).getD ""
      orderId := orderId
      totals := f.totals records })

/-- Make the report of an input and save it. The place of the output is prepared first, and
nothing is saved unless the whole report is made. -/
def format (f : Formatter) (files : FileStore) (input output : String) :
    FileStore × Except RunError ReportSummary :=
  match files.prepare output f.overwrite with
  | (files, .error error) => (files, .error (.outputRefused error))
  | (files, .ok _) =>
    match f.report files input output with
    | .error error => (files, .error error)
    | .ok (workbook, summary) =>
      match files.save output (.workbook workbook) with
      | (files, .error error) => (files, .error (.notSaved output error))
      | (files, .ok _) => (files, .ok summary)

/-- Make the report of an input at its usual place. -/
def formatOne (f : Formatter) (files : FileStore) (input : String) :
    FileStore × ReportSummary :=
  let output := f.settings.outputPath input
  match f.format files input output with
  | (files, .ok summary) => (files, summary)
  | (files, .error error) =>
    (files, .failed input ((Path.fileName? output).getD "") error.causes)

/-- Make the reports of several inputs, one after another. -/
def formatAll (f : Formatter) (files : FileStore) :
    List String → FileStore × List ReportSummary
  | [] => (files, [])
  | input :: rest =>
    let (files, summary) := f.formatOne files input
    let (files, summaries) := f.formatAll files rest
    (files, summary :: summaries)

/-- Make the reports of all inputs and sum them up. -/
def run (f : Formatter) (files : FileStore) (inputs : List String) : FileStore × RunSummary :=
  let (files, reports) := f.formatAll files inputs
  (files, ⟨reports⟩)

end Formatter

/-- Make the reports of all inputs that the settings lead to. -/
def runSettings (files : FileStore) (s : Settings) (overwrite : Bool) :
    FileStore × Except RunError RunSummary :=
  match (do
      let inputs ← discoverInputs files s.inputs
      let formatter ← Formatter.ofSettings files s overwrite
      .ok (inputs, formatter) : Except RunError (List String × Formatter)) with
  | .error error => (files, .error error)
  | .ok (inputs, formatter) =>
    let (files, summary) := formatter.run files inputs
    (files, .ok summary)

end SheetReport
