import SheetReport.Settings
import SheetReport.Toml.Document

/-!
# Settings in TOML

Settings are read from a document whose tables are named for the parts of the settings. What
the document leaves out has its default, and what it has in addition is passed over. A part
can also be written as the list of its values in their order.
-/

namespace SheetReport.Toml

/-- A text. -/
def Value.text? : Value → Option String
  | .text s => some s
  | _ => none

/-- A number, an integer too. -/
def Value.number? : Value → Option Float
  | .integer n => some (Number.ofInt n)
  | .float x => some x
  | _ => none

/-- A natural number below a limit. -/
def Value.nat? (limit : Nat) : Value → Option Nat
  | .integer n => if 0 ≤ n ∧ n < limit then some n.toNat else none
  | _ => none

/-- A list of texts. -/
def Value.texts? : Value → Option (List String)
  | .array items | .tables items => items.mapM Value.text?
  | _ => none

/-- The values of a part of the settings by name. A moment is a part without any known name. -/
def Value.part? (names : List String) : Value → Option Entries
  | .table _ entries => some entries
  | .array items | .tables items => some (names.zip items)
  | .moment => some []
  | _ => none

/-- The value under a key as `decode` reads it, or a default where there is none. -/
def Entries.read? (entries : Entries) (key : String) (default : α) (decode : Value → Option α) :
    Option α :=
  match entries.get? key with
  | none => some default
  | some v => decode v

end SheetReport.Toml

namespace SheetReport

/-- Words for numbers are below this one. -/
def wordLimit : Nat := 0x100000000

/-- The settings of grouping. -/
def GroupingRules.ofToml? (v : Toml.Value) : Option GroupingRules := do
  let d : GroupingRules := {}
  let e ← v.part?
    ["start_date", "end_date", "line_item", "creative_size", "line_item_pattern", "order_pattern"]
  some
    { startDate := ← e.read? "start_date" d.startDate Toml.Value.text?
      endDate := ← e.read? "end_date" d.endDate Toml.Value.text?
      lineItem := ← e.read? "line_item" d.lineItem Toml.Value.text?
      creativeSize := ← e.read? "creative_size" d.creativeSize Toml.Value.text?
      lineItemPattern := ← e.read? "line_item_pattern" d.lineItemPattern Toml.Value.text?
      orderPattern := ← e.read? "order_pattern" d.orderPattern Toml.Value.text? }

/-- The kinds of columns. -/
def ColumnKinds.ofToml? (v : Toml.Value) : Option ColumnKinds := do
  let d : ColumnKinds := {}
  let e ← v.part? ["ratio", "count", "label", "subtotal_label", "total_label"]
  some
    { ratio := ← e.read? "ratio" d.ratio Toml.Value.texts?
      count := ← e.read? "count" d.count Toml.Value.texts?
      label := ← e.read? "label" d.label Toml.Value.texts?
      subtotalLabel := ← e.read? "subtotal_label" d.subtotalLabel Toml.Value.text?
      totalLabel := ← e.read? "total_label" d.totalLabel Toml.Value.text? }

/-- The settings of assembly. -/
def AssemblyRules.ofToml? (v : Toml.Value) : Option AssemblyRules := do
  let e ← v.part? ["grouping", "semantics"]
  some
    { grouping := ← e.read? "grouping" {} GroupingRules.ofToml?
      kinds := ← e.read? "semantics" {} ColumnKinds.ofToml? }

/-- The settings of cleaning. -/
def CleaningRules.ofToml? (v : Toml.Value) : Option CleaningRules := do
  let d : CleaningRules := {}
  let e ← v.part? ["goal_threshold", "goal_column", "native_format_column"]
  some
    { goalThreshold := ← e.read? "goal_threshold" d.goalThreshold Toml.Value.number?
      goalColumn := ← e.read? "goal_column" d.goalColumn Toml.Value.text?
      nativeFormatColumn :=
        ← e.read? "native_format_column" d.nativeFormatColumn Toml.Value.text? }

/-- The settings of styling. -/
def StyleRules.ofToml? (v : Toml.Value) : Option StyleRules := do
  let d : StyleRules := {}
  let e ← v.part?
    ["merge_columns", "order_placeholder", "icon_placeholder", "icon", "icon_size", "date_format",
      "total_bar_fill"]
  some
    { mergeColumns := ← e.read? "merge_columns" d.mergeColumns Toml.Value.texts?
      orderPlaceholder := ← e.read? "order_placeholder" d.orderPlaceholder Toml.Value.text?
      iconPlaceholder := ← e.read? "icon_placeholder" d.iconPlaceholder Toml.Value.text?
      icon := ← e.read? "icon" d.icon fun v => v.text?.map some
      iconSize := ← e.read? "icon_size" d.iconSize (Toml.Value.nat? wordLimit)
      dateFormat := ← e.read? "date_format" d.dateFormat Toml.Value.text?
      totalBarFill := ← e.read? "total_bar_fill" d.totalBarFill (Toml.Value.nat? wordLimit) }

/-- The settings in a document; none if it is no TOML or a value is not of its kind. -/
def Settings.read? (document : String) : Option Settings := do
  let d : Settings := {}
  let e ← Toml.document? document
  some
    { sheetName := ← e.read? "sheet_name" d.sheetName Toml.Value.text?
      inputs := ← e.read? "inputs_dir" d.inputs Toml.Value.text?
      outputs := ← e.read? "outputs_dir" d.outputs Toml.Value.text?
      template := ← e.read? "template" d.template Toml.Value.text?
      icon := ← e.read? "icon" d.icon fun v => v.text?.map some
      outputPrefix := ← e.read? "output_prefix" d.outputPrefix Toml.Value.text?
      requiredColumns := ← e.read? "required_columns" d.requiredColumns Toml.Value.texts?
      reportColumns := ← e.read? "report_columns" d.reportColumns Toml.Value.texts?
      cleaning := ← e.read? "cleaning" {} CleaningRules.ofToml?
      assembly := ← e.read? "engine" {} AssemblyRules.ofToml?
      style := ← e.read? "style" {} StyleRules.ofToml? }

end SheetReport
