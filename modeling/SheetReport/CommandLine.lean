import SheetReport.CommandLine.Arguments
import SheetReport.Formatter
import SheetReport.Summary.Json
import SheetReport.Summary.Text

/-!
# The command line

`run` makes the reports of all inputs and prints a summary; `check` lists the tags of a
template and tells whether its anchors are complete. The exit code is 0 after success, 1 after
a failure, and 2 if the arguments make no sense.
-/

namespace SheetReport.CommandLine

/-- What a command leaves behind. -/
structure Answer where
  code : Nat
  output : String := ""
  /-- The error that ended the command. -/
  error : Option String := none
deriving DecidableEq, Repr

/-- The answer to arguments that make no sense. -/
def Answer.usage : Answer := { code := 2 }

/-- The answer of a command that was ended by an error. -/
def Answer.ofError (message : String) : Answer := { code := 1, error := some message }

/-- Lines of output. -/
def outputLines (lines : List String) : String := String.join (lines.map fun line => line ++ "\n")

/-- What the program is called and does. -/
def title : String := "tallysheet - Tag-driven spreadsheet report formatter"

/-- The name and the version of the program. -/
def versionText : String := "tallysheet 0.4.1"

/-- The lines of help. -/
def helpLines : List String :=
  ["Usage: tallysheet [-v]... [run [OPTIONS] | check TEMPLATE | help]", "",
    "  run      Format every report export in the inputs directory",
    "  check    List the tags of a template and check its anchors"]

/-- The settings in a file, or the default ones. -/
def loadSettings (files : FileStore) : Option String → Except RunError Settings
  | none => .ok {}
  | some path =>
    match files.text? path with
    | none => .error (.settingsUnreadable path)
    | some text =>
      match Settings.read? text with
      | some settings => .ok settings
      | none => .error (.settingsInvalid path)

/-- Settings with those of the options of a run in place of their own. -/
def override (o : RunOptions) (s : Settings) : Settings :=
  { s with
    inputs := o.inputs.getD s.inputs
    outputs := o.outputs.getD s.outputs
    template := o.template.getD s.template
    icon := o.icon.or s.icon }

/-- A summary in a notation. -/
def summaryText : SummaryFormat → RunSummary → String
  | .text, s => s.text
  | .json, s => s.json

/-- Make the reports of all inputs. -/
def run (files : FileStore) (o : RunOptions) : FileStore × Answer :=
  match loadSettings files o.config with
  | .error error => (files, .ofError error.message)
  | .ok settings =>
    match runSettings files (override o settings) o.force with
    | (files, .error error) => (files, .ofError error.message)
    | (files, .ok summary) =>
      (files,
        { code := summary.exitCode, output := summaryText (o.format.getD .text) summary })

/-- What a tag is for. -/
def tagKind : Tag → String
  | .anchor _ => "anchor"
  | .subtotal _ _ => "subtotal"
  | .total _ => "total"
  | .decorative _ => "decorative"

/-- The line about a tag. -/
def tagLine (e : Cell × Tag) : String :=
  "  " ++ Text.padRight 8 e.1.name ++ " " ++ Text.padRight 30 e.2.text ++ " " ++ tagKind e.2

/-- The lines about the tags of a template. -/
def tagLines (path : String) (t : Template) (tags : List (Cell × Tag)) : List String :=
  s!"{path}: {tags.length} tag(s) in sheet '{t.sheetName}'" :: tags.map tagLine

/-- The line about the anchors of a template. -/
def anchorLine (a : Anchors) : String :=
  s!"anchors ok: header_start {a.headerStart.name}, data_start {a.dataStart.name}, " ++
    s!"data_end {a.dataEnd.name}"

/-- List the tags of a template. -/
def check (files : FileStore) (path : String) : Answer :=
  match files.workbook path >>= fun w => w.template path with
  | .error error => .ofError (RunError.templateUnreadable path error).message
  | .ok template =>
    match template.grid.tags with
    | .error error => .ofError error.message
    | .ok tags =>
      let lines := tagLines path template tags
      match template.grid.anchors with
      | .ok anchors => { code := 0, output := outputLines (lines ++ [anchorLine anchors]) }
      | .error error => { code := 1, output := outputLines (lines ++ [error.message]) }

/-- Carry out a command. -/
def perform (files : FileStore) : Command → FileStore × Answer
  | .greet =>
    (files,
      { code := 0, output := outputLines [title, "Run with --help for usage information"] })
  | .version => (files, { code := 0, output := outputLines [versionText] })
  | .help => (files, { code := 0, output := outputLines (title :: "" :: helpLines) })
  | .run options => run files options
  | .check template => (files, check files template)

/-- Take the settings file of the environment for a run without one; none if its path is
empty. -/
def withEnvironment? (config : Option String) : Command → Option Command
  | .run options =>
    match options.config, config with
    | none, some path => (path? path).map fun path => .run { options with config := some path }
    | _, _ => some (.run options)
  | command => some command

/-- Carry out the command of some arguments. The environment may name a settings file. -/
def execute (files : FileStore) (arguments : List String) (config : Option String) :
    FileStore × Answer :=
  match (Command.read? arguments).bind (withEnvironment? config) with
  | some command => perform files command
  | none => (files, .usage)

end SheetReport.CommandLine
