import SheetReport.Number.Text
import SheetReport.Summary
import SheetReport.Text.Quoted

/-!
# Summaries as JSON

A JSON text with one item to a line, indented by two blanks for each level. Empty lists and
objects take no lines of their own.
-/

namespace SheetReport

/-- A JSON value; the members of objects stay in their order. -/
inductive JsonValue where
  | null
  | text (s : String)
  | natural (n : Nat)
  | number (x : Float)
  | list (items : List JsonValue)
  | object (members : List (String × JsonValue))
deriving Inhabited

namespace JsonValue

/-- One character as it stands between the quotes. -/
def escapeChar (c : Char) : List Char :=
  match c with
  | '"' => ['\\', '"']
  | '\\' => ['\\', '\\']
  | '\x08' => ['\\', 'b']
  | '\x0c' => ['\\', 'f']
  | '\n' => ['\\', 'n']
  | '\r' => ['\\', 'r']
  | '\t' => ['\\', 't']
  | c =>
    if c.toNat < 32 then
      let digits := Text.hexDigits c.toNat
      ['\\', 'u'] ++ List.replicate (4 - digits.length) '0' ++ digits
    else [c]

/-- A text between double quotes. -/
def quoted (s : String) : String :=
  String.ofList ('"' :: s.toList.flatMap escapeChar ++ ['"'])

/-- The start of a line on a level. -/
def indent (level : Nat) : String := String.ofList ('\n' :: List.replicate (2 * level) ' ')

/-- Items between brackets, each on a line of its own. -/
def bracketed (left right : String) (level : Nat) (items : List String) : String :=
  if items.isEmpty then left ++ right
  else
    left ++ ",".intercalate (items.map fun item => indent (level + 1) ++ item) ++ indent level ++
      right

mutual

/-- The text of a value on a level. -/
def render (level : Nat) : JsonValue → String
  | .null => "null"
  | .text s => quoted s
  | .natural n => toString n
  | .number x => Number.data x
  | .list items => bracketed "[" "]" level (renderItems (level + 1) items)
  | .object members => bracketed "\x7b" "\x7d" level (renderMembers (level + 1) members)

/-- The texts of items. -/
def renderItems (level : Nat) : List JsonValue → List String
  | [] => []
  | item :: rest => render level item :: renderItems level rest

/-- The texts of members. -/
def renderMembers (level : Nat) : List (String × JsonValue) → List String
  | [] => []
  | (name, v) :: rest => (quoted name ++ ": " ++ render level v) :: renderMembers level rest

end

end JsonValue

/-- A summary of one input; a failure is a member only if there is one. -/
def ReportSummary.json (r : ReportSummary) : JsonValue :=
  .object
    ([("input", .text r.input), ("report", .text r.report),
      ("order_id", (r.orderId.map JsonValue.text).getD .null),
      ("totals", .object (r.totals.entries.map fun e => (e.1, .number e.2)))] ++
    (r.error.map fun e => ("error", JsonValue.text e)).toList)

/-- A summary as JSON. -/
def RunSummary.json (s : RunSummary) : String :=
  (JsonValue.object
    [("formatted", .natural s.formatted), ("failed", .natural s.failed),
      ("reports", .list (s.reports.map ReportSummary.json))]).render 0 ++ "\n"

end SheetReport
