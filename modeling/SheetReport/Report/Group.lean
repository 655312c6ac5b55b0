import SheetReport.Pattern.Reader
import SheetReport.Records

/-!
# Groups of records

Records are sorted by start date, line item and creative size, ties in input order, and then
gathered by start date, end date and an identifier found in the line item. Groups come in the
order of their first records, and records keep their sorted order inside a group.
-/

namespace SheetReport

/-- The columns and patterns that grouping looks at. -/
structure GroupingRules where
  startDate : String := "Line item start date"
  endDate : String := "Line item end date"
  lineItem : String := "Line Item"
  creativeSize : String := "Creative Size"
  lineItemPattern : String := "ORD-\\d+-\\d+-\\d+"
  orderPattern : String := "ORD-\\d+"
deriving DecidableEq, Repr

/-- An identifier, of a line item or only of its order. -/
inductive Identifier where
  | lineItem (id : String)
  | order (id : String)
deriving DecidableEq, Repr

/-- The text of an identifier. -/
def Identifier.text : Identifier → String
  | .lineItem id | .order id => id

/-- What the records of a group have in common; dates are in their printed form. -/
structure GroupKey where
  start : String
  stop : String
  identifier : Identifier
deriving DecidableEq, Repr

/-- The printed form of a key. -/
def GroupKey.text (k : GroupKey) : String :=
  k.start ++ "-" ++ k.stop ++ "-" ++ k.identifier.text

/-- A record with its place in the input. -/
structure Member where
  index : Nat
  record : Record
deriving DecidableEq

/-- A group of records. -/
structure Group where
  key : GroupKey
  members : List Member
deriving DecidableEq

namespace Group

/-- The number of records. -/
def size (g : Group) : Nat := g.members.length

/-- Whether the group has a subtotal of its own. -/
def isSubtotalled (g : Group) : Bool := 1 < g.size

/-- The records. -/
def records (g : Group) : List Record := g.members.map (·.record)

/-- Add a member to the group of its key, or to a new last group. -/
def addMember (key : GroupKey) (m : Member) : List Group → List Group
  | [] => [⟨key, [m]⟩]
  | g :: rest =>
    if g.key = key then { g with members := g.members ++ [m] } :: rest
    else g :: addMember key m rest

/-- The groups of a list of members with their keys. -/
def gather (members : List (GroupKey × Member)) : List Group :=
  members.foldl (fun groups m => addMember m.1 m.2 groups) []

end Group

/-- Finds identifiers and forms groups. -/
structure Grouper where
  rules : GroupingRules
  lineItem : Pattern
  order : Pattern

namespace Grouper

/-- The grouper for a set of rules; none if a pattern is invalid. -/
def ofRules? (rules : GroupingRules) : Option Grouper := do
  let lineItem ← Pattern.read? rules.lineItemPattern
  let order ← Pattern.read? rules.orderPattern
  some ⟨rules, lineItem, order⟩

/-- The identifier of an order in a text. -/
def orderId? (g : Grouper) (text : String) : Option String := g.order.find? text

/-- The identifier of a line item in a text, or else of an order. -/
def identifier? (g : Grouper) (text : String) : Option Identifier :=
  match g.lineItem.find? text with
  | some id => some (.lineItem id)
  | none => (g.orderId? text).map .order

/-- The order of records before grouping. -/
def compare (g : Grouper) (s : Records) (lineItem : Nat) (a b : Record) : Ordering :=
  ((s.value a g.rules.startDate).compare (s.value b g.rules.startDate)).then
    (((a.get lineItem).compare (b.get lineItem)).then
      ((s.value a g.rules.creativeSize).compare (s.value b g.rules.creativeSize)))

/-- The records with their places, in input order. -/
def members (s : Records) : List Member := s.records.zipIdx.map fun e => ⟨e.2, e.1⟩

/-- The records in the order of grouping. -/
def sorted (g : Grouper) (s : Records) (lineItem : Nat) : List Member :=
  (members s).mergeSort fun a b => (g.compare s lineItem a.record b.record).isLE

/-- The key of a record; an error if its line item has no identifier. -/
def keyOf (g : Grouper) (s : Records) (lineItem : Nat) (m : Member) :
    Except ReportError GroupKey :=
  let text := (m.record.get lineItem).print
  match g.identifier? text with
  | none => .error (.unidentified m.index text)
  | some identifier =>
    .ok ⟨(s.value m.record g.rules.startDate).print, (s.value m.record g.rules.endDate).print,
      identifier⟩

/-- The groups of a record set. Only the line item column has to exist; other missing columns
read as empty. -/
def build (g : Grouper) (s : Records) : Except ReportError (List Group) := do
  let lineItem ← s.require g.rules.lineItem
  let keyed ← (g.sorted s lineItem).mapM fun m => (g.keyOf s lineItem m).map (·, m)
  .ok (Group.gather keyed)

end Grouper

end SheetReport
