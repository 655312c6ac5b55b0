/-!
# Arguments of the command line

Options have a long name after two dashes, and some have a letter after one dash; letters can
share a dash. The value of an option follows it after an equals sign, at once after its letter,
or as the next argument. Two dashes alone end the options.

A command is read from left to right. An option may be given once, its value is neither empty
nor, as an argument of its own, led by a dash.
-/

namespace SheetReport.CommandLine

/-- The notation of a summary. -/
inductive SummaryFormat where
  | text
  | json
deriving DecidableEq, Repr

/-- The notation of a name. -/
def SummaryFormat.ofName? : String → Option SummaryFormat
  | "text" => some .text
  | "json" => some .json
  | _ => none

/-- The options of a run. -/
structure RunOptions where
  /-- The file with the settings. -/
  config : Option String := none
  inputs : Option String := none
  outputs : Option String := none
  template : Option String := none
  icon : Option String := none
  /-- Whether outputs may be overwritten. -/
  force : Bool := false
  format : Option SummaryFormat := none
deriving DecidableEq, Repr

/-- What the arguments ask for. -/
inductive Command where
  /-- Nothing in particular. -/
  | greet
  | version
  | help
  | run (options : RunOptions)
  | check (template : String)
deriving DecidableEq, Repr

/-- What an argument looks like. -/
inductive Argument where
  /-- Two dashes alone. -/
  | endOfOptions
  | long (name : String) (value : Option String)
  | letters (cs : List Char)
  | plain (text : String)

/-- What an argument looks like; a dash alone is plain. -/
def Argument.ofText (text : String) : Argument :=
  match text.toList with
  | ['-', '-'] => .endOfOptions
  | '-' :: '-' :: cs =>
    let name := cs.takeWhile (· != '=')
    let value := cs.drop (name.length + 1)
    .long (String.ofList name)
      (if name.length < cs.length then some (String.ofList value) else none)
  | '-' :: c :: cs => .letters (c :: cs)
  | _ => .plain text

/-- Set an option that has no value yet. -/
def setOnce? (old : Option α) (new : Option α) : Option (Option α) :=
  match old, new with
  | none, some v => some (some v)
  | _, _ => none

/-- A path of at least one character. -/
def path? (text : String) : Option String := if text = "" then none else some text

namespace RunOptions

/-- Whether a name is that of an option with a value. -/
def hasValue (name : String) : Bool :=
  ["config", "inputs", "outputs", "template", "icon", "format"].contains name

/-- Set the option of a name to a value. -/
def set? (o : RunOptions) (name value : String) : Option RunOptions :=
  match name with
  | "config" => (setOnce? o.config (path? value)).map fun v => { o with config := v }
  | "inputs" => (setOnce? o.inputs (path? value)).map fun v => { o with inputs := v }
  | "outputs" => (setOnce? o.outputs (path? value)).map fun v => { o with outputs := v }
  | "template" => (setOnce? o.template (path? value)).map fun v => { o with template := v }
  | "icon" => (setOnce? o.icon (path? value)).map fun v => { o with icon := v }
  | "format" =>
    (setOnce? o.format (SummaryFormat.ofName? value)).map fun v => { o with format := v }
  | _ => none

/-- Allow outputs to be overwritten. -/
def setForce? (o : RunOptions) : Option RunOptions :=
  if o.force then none else some { o with force := true }

end RunOptions

/-- What comes of an argument of a run. -/
inductive RunStep where
  | done (options : RunOptions)
  /-- The next argument is the value of an option. -/
  | value (options : RunOptions) (name : String)
  | help
  | invalid

/-- The step after an option was set. -/
def RunStep.ofOption : Option RunOptions → RunStep
  | some o => .done o
  | none => .invalid

/-- Letters after a dash in a run. -/
def runLetters (o : RunOptions) : List Char → RunStep
  | [] => .done o
  | 'v' :: rest => runLetters o rest
  | 'h' :: _ => .help
  | 'f' :: rest =>
    match o.setForce? with
    | some o => runLetters o rest
    | none => .invalid
  | ['c'] => .value o "config"
  | 'c' :: '=' :: value | 'c' :: value => .ofOption (o.set? "config" (String.ofList value))
  | _ => .invalid

/-- An option with a long name in a run. -/
def runLong (o : RunOptions) (name : String) : Option String → RunStep
  | some value => .ofOption (o.set? name value)
  | none =>
    if name = "verbose" then .done o
    else if name = "help" then .help
    else if name = "force" then .ofOption o.setForce?
    else if RunOptions.hasValue name then .value o name
    else .invalid

/-- The step of an argument of a run. -/
def runStep (o : RunOptions) (text : String) : RunStep :=
  match Argument.ofText text with
  | .long name value => runLong o name value
  | .letters cs => runLetters o cs
  | .endOfOptions | .plain _ => .invalid

/-- Whether an argument can be the value of an option. -/
def isValue (text : String) : Bool :=
  match Argument.ofText text with
  | .plain _ => true
  | _ => false

/-- A run with some arguments. -/
def readRun? (o : RunOptions) : List String → Option Command
  | [] | ["--"] => some (.run o)
  | text :: rest =>
    match runStep o text with
    | .done o => readRun? o rest
    | .help => some .help
    | .invalid => none
    | .value o name =>
      match rest with
      | [] => none
      | value :: rest =>
        if isValue value then (o.set? name value).bind fun o => readRun? o rest else none

/-- The template of a check among the arguments after two dashes. -/
def readTemplate? (template : Option String) (rest : List String) : Option Command :=
  match template.toList ++ rest with
  | [path] => (path? path).map .check
  | _ => none

/-- A check with some arguments. -/
def readCheck? (template : Option String) : List String → Option Command
  | [] => template.map .check
  | text :: rest =>
    match Argument.ofText text with
    | .endOfOptions => readTemplate? template rest
    | .plain path => (setOnce? template (path? path)).bind fun t => readCheck? t rest
    | .long "verbose" none => readCheck? template rest
    | .long "help" none => some .help
    | .long _ _ => none
    | .letters cs =>
      match cs.dropWhile (· == 'v') with
      | [] => readCheck? template rest
      | 'h' :: _ => some .help
      | _ => none

/-- A request for help on a command. -/
def readHelp? : List String → Option Command
  | [] | ["run"] | ["check"] | ["help"] => some .help
  | _ => none

/-- The command of some arguments; none if they make no sense. -/
def Command.read? : List String → Option Command
  | [] | ["--"] => some .greet
  | text :: rest =>
    match Argument.ofText text with
    | .plain "run" => readRun? {} rest
    | .plain "check" => readCheck? none rest
    | .plain "help" => readHelp? rest
    | .long "verbose" none => read? rest
    | .long "version" none => some .version
    | .long "help" none => some .help
    | .letters cs =>
      match cs.dropWhile (· == 'v') with
      | [] => read? rest
      | 'h' :: _ => some .help
      | 'V' :: _ => some .version
      | _ => none
    | _ => none

end SheetReport.CommandLine
