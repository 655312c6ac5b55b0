import SheetReport.Number.Read

/-!
# Elements and their attributes

An element keeps the text of its attributes as it stands in the document. Attributes are read
only when one is looked up, from left to right and no further than the one that is wanted, so
a fault behind it goes unnoticed. Names are compared without their namespace prefix.
-/

namespace SheetReport.Xml

/-- What is wrong with a document. -/
inductive Fault where
  /-- Markup that is not closed or not matched, or an unknown entity. -/
  | markup
  /-- An attribute without a quoted value. -/
  | attribute
deriving DecidableEq, Repr

/-- A start tag or an empty element. -/
structure Element where
  name : List Char
  attributes : List Char
deriving DecidableEq, Repr

/-- White space of markup. -/
def isBlank (c : Char) : Bool := c == ' ' || c == '\r' || c == '\n' || c == '\t'

/-- A name without its prefix. -/
def localName (name : List Char) : List Char :=
  match name.dropWhile (· != ':') with
  | [] => name
  | _ :: rest => rest

/-- The element whose tag has the given text between its brackets. -/
def Element.ofContent (content : List Char) : Element :=
  let name := content.takeWhile fun c => !isBlank c
  ⟨name, content.drop name.length⟩

/-- The name of an element without its prefix. -/
def Element.localName (e : Element) : String := String.ofList (Xml.localName e.name)

/-- What stands next in a list of attributes. -/
inductive Scanned where
  | none
  | attribute (key value rest : List Char)
  /-- A faulty attribute and what follows it. -/
  | fault (rest : List Char)

/-- Read the value of an attribute, after its equals sign. -/
def scanValue (key text : List Char) : Scanned :=
  match text.dropWhile isBlank with
  | [] => .fault []
  | quote :: rest =>
    if quote = '"' ∨ quote = '\'' then
      match rest.dropWhile (· != quote) with
      | [] => .fault []
      | _ :: after => .attribute key (rest.takeWhile (· != quote)) after
    else .fault ((quote :: rest).dropWhile fun c => !isBlank c)

/-- Read the next attribute. -/
def scanAttribute (text : List Char) : Scanned :=
  match text.dropWhile isBlank with
  | [] => .none
  | first :: rest =>
    let inKey (c : Char) : Bool := c != '=' && !isBlank c
    match (rest.dropWhile inKey).dropWhile isBlank with
    | '=' :: after => scanValue (first :: rest.takeWhile inKey) after
    | after => .fault after

/-- The character an entity stands for. -/
def entity? (name : List Char) : Option Char :=
  let ofCode (code : Option Nat) : Option Char :=
    code.bind fun n =>
      if n = 0 ∨ (0xd800 ≤ n ∧ n < 0xe000) then Option.none else some (Char.ofNat n)
  match name with
  | '#' :: 'x' :: digits => ofCode (Number.hex? 0x110000 digits)
  | '#' :: digits => ofCode (Number.digits? 0x110000 digits)
  | name =>
    match String.ofList name with
    | "lt" => some '<'
    | "gt" => some '>'
    | "amp" => some '&'
    | "apos" => some '\''
    | "quot" => some '"'
    | _ => Option.none

/-- A value with its entities replaced. Inside an entity the name read so far is given, last
character first. -/
def unescape : Option (List Char) → List Char → Except Fault (List Char)
  | .none, [] => .ok []
  | some _, [] => .error .markup
  | .none, c :: rest =>
    if c = '&' then unescape (some []) rest else (unescape .none rest).map (c :: ·)
  | some name, c :: rest =>
    if c = ';' then
      match entity? name.reverse with
      | .none => .error .markup
      | some e => (unescape .none rest).map (e :: ·)
    else if c = '&' then .error .markup
    else unescape (some (c :: name)) rest

/-- The value of the first attribute of a name, in at most `fuel` attributes. -/
def lookup (name : List Char) : Nat → List Char → Except Fault (Option String)
  | 0, _ => .ok .none
  | fuel + 1, text =>
    match scanAttribute text with
    | .none => .ok .none
    | .fault _ => .error .attribute
    | .attribute key value rest =>
      if localName key = name then
        (unescape .none value).map fun value => some (String.ofList value)
      else lookup name fuel rest

namespace Element

/-- The value of an attribute. -/
def attribute? (e : Element) (name : String) : Except Fault (Option String) :=
  lookup name.toList (e.attributes.length + 1) e.attributes

/-- The value of an attribute, read from its text without blanks around it. -/
def parsed? (e : Element) (name : String) (read : List Char → Option α) :
    Except Fault (Option α) :=
  (e.attribute? name).map fun value => value.bind fun v => read (Text.trim v.toList)

/-- The value of a flag; a flag that is absent has a default. -/
def flag (e : Element) (name : String) (default : Bool) : Except Fault Bool :=
  (e.attribute? name).map fun
    | some v =>
      let v := (Text.trim v.toList).map Char.toLower
      v == ['1'] || v == ['t', 'r', 'u', 'e']
    | Option.none => default

/-- The attributes under their full names, as they are written, in at most `fuel` steps; faulty
ones are marked. -/
def scanAll : Nat → List Char → List (Option (List Char × List Char))
  | 0, _ => []
  | fuel + 1, text =>
    match scanAttribute text with
    | .none => []
    | .fault rest => Option.none :: scanAll fuel rest
    | .attribute key value rest => some (key, value) :: scanAll fuel rest

/-- The attributes under their full names, as they are written; faulty ones are marked. -/
def rawAttributes (e : Element) : List (Option (List Char × List Char)) :=
  scanAll (e.attributes.length + 1) e.attributes

end Element

end SheetReport.Xml
