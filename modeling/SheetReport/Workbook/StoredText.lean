import SheetReport.Xml.Event

/-!
# Texts in the string table

The texts of a stored sheet stand in a table of strings. A character that markup cannot hold is
written as its code between `_x` and `_`, and the underscore of a text that looks like such a
code is written as one; neither is undone when the table is read. A text that is marked up as
a sequence of runs is kept as markup, and what is read of it are the texts of its runs.
-/

namespace SheetReport.StoredText

open Xml (Element Markup)

/-- A hexadecimal digit. -/
def isHexDigit (c : Char) : Bool :=
  Text.isDigitAscii c || ('a' ≤ c && c ≤ 'f') || ('A' ≤ c && c ≤ 'F')

/-- Whether an underscore before a text would look like a written code: four digits and one
more character follow. -/
def looksCoded : List Char → Bool
  | 'x' :: a :: b :: c :: d :: _ :: _ => [a, b, c, d].all isHexDigit
  | _ => false

/-- A character that markup cannot hold, or not without change. -/
def isCoded (c : Char) : Bool :=
  let n := c.toNat
  n < 9 || (10 < n && n < 32) || n == 0xfffe || n == 0xffff

/-- A character as its code. -/
def code (c : Char) : List Char :=
  let digits := (Nat.toDigits 16 c.toNat).map Char.toUpper
  ['_', 'x'] ++ List.replicate (4 - digits.length) '0' ++ digits ++ ['_']

/-- A plain text as it is read back. -/
def plain : List Char → List Char
  | [] => []
  | c :: rest =>
    if isCoded c || (c == '_' && looksCoded rest) then code c ++ plain rest else c :: plain rest

/-- Where the reading of runs stands. -/
structure Runs where
  /-- The name of the text element that is open. -/
  inside : Option (List Char) := none
  /-- Whether the runs are a reading aid, whose texts do not count. -/
  phonetic : Bool := false

/-- The runs after a start tag. -/
def Runs.start (r : Runs) (name : List Char) : Runs :=
  match r.inside, String.ofList (Xml.localName name) with
  | none, "rPh" => { r with phonetic := true }
  | none, "t" => if r.phonetic then r else { r with inside := some name }
  | _, _ => r

/-- The runs after an end tag. -/
def Runs.stop (r : Runs) (name : List Char) : Runs :=
  match r.inside, String.ofList (Xml.localName name) with
  | some opened, _ => if opened = name then { r with inside := none } else r
  | none, "rPh" => { r with phonetic := false }
  | none, _ => r

/-- The runs after a piece of markup. -/
def Runs.step (r : Runs) : Markup → Runs
  | .passed => r
  | .endTag content => r.stop (Xml.endName content)
  | .tag content =>
    if content.getLast? = some '/' then
      let name := (Element.ofContent content.dropLast).name
      (r.start name).stop name
    else r.start (Element.ofContent content).name

/-- The texts of runs in markup, in at most `fuel` pieces; none if the markup cannot be read or
a text is not closed. -/
def readRuns? : Nat → Runs → List Char → Option (List Char)
  | 0, _, _ => none
  | fuel + 1, r, text =>
    let before := text.takeWhile (· != '<')
    match text.drop before.length with
    | [] => if r.inside.isSome then none else some []
    | _ :: rest => do
      let shown ← if r.inside.isSome then (Xml.unescape none before).toOption else some []
      let (markup, rest) ← Xml.markup? rest
      let others ← readRuns? fuel (r.step markup) rest
      some (shown ++ others)

/-- Whether a text is marked up as runs. -/
def isRuns (text : List Char) : Bool :=
  "<r>".toList.isPrefixOf text && "</r>".toList.isSuffixOf text

/-- A text as it is read back from the table; none if the table cannot be read any more. -/
def readBack? (s : String) : Option String :=
  let text := s.toList
  if isRuns text then (readRuns? (text.length + 1) {} text).map String.ofList
  else some (String.ofList (plain text))

end SheetReport.StoredText
