import SheetReport.Text.Age
import SheetReport.Text.Boundary

/-!
# Properties of characters in patterns

A pattern may name a set of characters by a property: one that is true or false, a general
category, a script, or a property together with a value. Names are compared in lower case
without blanks, underscores and dashes; what is not ASCII in them does not count, nor does an
`is` at their very beginning.
-/

namespace SheetReport.Pattern.Property

open Text (Category Ranges)

/-- The general categories under a name in lower case without separators. -/
def categories? : String → Option (List Category)
  | "l" | "letter" => some [.upper, .lower, .title, .modifier, .otherLetter]
  | "lc" | "casedletter" => some [.upper, .lower, .title]
  | "lu" | "uppercaseletter" => some [.upper]
  | "ll" | "lowercaseletter" => some [.lower]
  | "lt" | "titlecaseletter" => some [.title]
  | "lm" | "modifierletter" => some [.modifier]
  | "lo" | "otherletter" => some [.otherLetter]
  | "m" | "mark" | "combiningmark" => some [.nonspacing, .spacing, .enclosing]
  | "mn" | "nonspacingmark" => some [.nonspacing]
  | "mc" | "spacingmark" => some [.spacing]
  | "me" | "enclosingmark" => some [.enclosing]
  | "n" | "number" => some [.decimal, .letterNumber, .otherNumber]
  | "nd" | "decimalnumber" | "digit" => some [.decimal]
  | "nl" | "letternumber" => some [.letterNumber]
  | "no" | "othernumber" => some [.otherNumber]
  | "p" | "punctuation" | "punct" =>
    some [.connector, .dash, .opening, .closing, .initialQuote, .finalQuote, .otherPunctuation]
  | "pc" | "connectorpunctuation" => some [.connector]
  | "pd" | "dashpunctuation" => some [.dash]
  | "ps" | "openpunctuation" => some [.opening]
  | "pe" | "closepunctuation" => some [.closing]
  | "pi" | "initialpunctuation" => some [.initialQuote]
  | "pf" | "finalpunctuation" => some [.finalQuote]
  | "po" | "otherpunctuation" => some [.otherPunctuation]
  | "s" | "symbol" => some [.math, .currency, .modifierSymbol, .otherSymbol]
  | "sm" | "mathsymbol" => some [.math]
  | "sc" | "currencysymbol" => some [.currency]
  | "sk" | "modifiersymbol" => some [.modifierSymbol]
  | "so" | "othersymbol" => some [.otherSymbol]
  | "z" | "separator" => some [.space, .line, .paragraph]
  | "zs" | "spaceseparator" => some [.space]
  | "zl" | "lineseparator" => some [.line]
  | "zp" | "paragraphseparator" => some [.paragraph]
  | "c" | "other" => some [.control, .format, .surrogate, .privateUse, .unassigned]
  | "cc" | "control" | "cntrl" => some [.control]
  | "cf" | "format" => some [.format]
  | "cs" | "surrogate" => some [.surrogate]
  | "co" | "privateuse" => some [.privateUse]
  | "cn" | "unassigned" => some [.unassigned]
  | _ => none

/-- A name as it is compared. An `isc` keeps its beginning, for it is the name of a property of
its own. -/
def normalize (name : List Char) : String :=
  let keep (c : Char) : Bool := c.toNat < 128 && c != ' ' && c != '_' && c != '-'
  let (isFirst, rest) :=
    match name with
    | a :: b :: rest => if a.toLower = 'i' ∧ b.toLower = 's' then (true, rest) else (false, name)
    | _ => (false, name)
  let kept := String.ofList ((rest.filter keep).map Char.toLower)
  if isFirst && kept == "c" then "isc" else kept

/-- The characters of a general category; surrogates are none. -/
def category? (name : String) : Option Ranges :=
  match name with
  | "any" => some Ranges.all
  | "ascii" => some Text.Property.ascii
  | "assigned" => some Text.Property.assigned
  | other =>
    match categories? other with
    | none | some [.surrogate] => none
    | some categories => some (Category.rangesOf categories)

/-- The characters of a script. -/
def script? (name : String) : Option Ranges := (Text.Script.ofName? name).map Text.Script.ranges

/-- The characters under a name that stands alone: they have a property that is true or false,
or are of a category or a script. -/
def named? (name : List Char) : Option Ranges :=
  let name := normalize name
  ((Text.Property.ofName? name).or (category? name)).or (script? name)

/-- The characters for which a property has a value. -/
def withValue? (name value : List Char) : Option Ranges :=
  let value := normalize value
  match normalize name with
  | "gc" | "generalcategory" => category? value
  | "sc" | "script" => script? value
  | "scx" | "scriptextensions" => (Text.Script.ofName? value).map Text.Script.extendedRanges
  | "age" => (Text.Age.index? value).map Text.Age.ranges
  | "gcb" | "graphemeclusterbreak" => Text.Boundary.grapheme? value
  | "wb" | "wordbreak" => Text.Boundary.word? value
  | "sb" | "sentencebreak" => Text.Boundary.sentence? value
  | _ => none

end SheetReport.Pattern.Property
