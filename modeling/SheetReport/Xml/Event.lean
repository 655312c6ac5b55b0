import SheetReport.Xml.Element

/-!
# Documents as events

A document is read as a sequence of start tags, empty elements and end tags. Text, comments,
character data, processing instructions and document types are passed over. The sequence ends
with a fault where the markup cannot be read; open elements at the end are no fault.
-/

namespace SheetReport.Xml

/-- A part of a document. -/
inductive Event where
  | start (e : Element)
  | empty (e : Element)
  /-- An end tag with its full name. -/
  | stop (name : List Char)
deriving DecidableEq, Repr

/-- The text up to the bracket that closes a tag, and what follows it; brackets inside quotes
do not count. -/
def takeTag : Option Char → List Char → Option (List Char × List Char)
  | _, [] => none
  | none, c :: rest =>
    if c = '>' then some ([], rest)
    else
      (takeTag (if c = '"' ∨ c = '\'' then some c else none) rest).map
        fun (content, rest) => (c :: content, rest)
  | some quote, c :: rest =>
    (takeTag (if c = quote then none else some quote) rest).map
      fun (content, rest) => (c :: content, rest)

/-- The text before the first place where `mark` stands, and what follows the mark. -/
def takeUntil (mark : List Char) : List Char → Option (List Char × List Char)
  | [] => none
  | c :: rest =>
    match mark.isPrefixOf? (c :: rest) with
    | some after => some ([], after)
    | none => (takeUntil mark rest).map fun (before, after) => (c :: before, after)

/-- The text up to the bracket that closes a document type with `depth` open brackets inside,
and what follows it. -/
def takeBalanced : Nat → List Char → Option (List Char × List Char)
  | _, [] => none
  | depth, c :: rest =>
    let next :=
      if c = '<' then some (depth + 1)
      else if c = '>' then (if depth = 0 then none else some (depth - 1))
      else some depth
    match next with
    | none => some ([], rest)
    | some depth => (takeBalanced depth rest).map fun (content, rest) => (c :: content, rest)

/-- Whether a text begins with another one in any case of its letters. -/
def beginsWith (mark text : List Char) : Bool :=
  (text.take mark.length).map Char.toUpper == mark

/-- What follows a comment, read after its opening bracket. -/
def afterComment (text : List Char) : Option (List Char) :=
  if "!--".toList.isPrefixOf text then
    (takeUntil ['-', '-', '>'] (text.drop 3)).map Prod.snd
  else none

/-- What follows character data, read after its opening bracket. -/
def afterData (text : List Char) : Option (List Char) :=
  if "![CDATA[".toList.isPrefixOf text then
    (takeUntil [']', ']', '>'] text).map Prod.snd
  else none

/-- What follows a document type, read after its opening bracket; it has to name something. -/
def afterDoctype (text : List Char) : Option (List Char) :=
  if beginsWith "!DOCTYPE".toList text then
    (takeBalanced 0 text).bind fun (content, rest) =>
      if (content.drop 8).all isBlank then none else some rest
  else none

/-- What follows a processing instruction, read after its opening bracket. -/
def afterInstruction (text : List Char) : Option (List Char) :=
  (takeUntil ['?', '>'] text).bind fun (content, rest) =>
    if content = [] then none else some rest

/-- A piece of markup. -/
inductive Markup where
  | tag (content : List Char)
  | endTag (content : List Char)
  | passed

/-- The markup after an opening bracket, and what follows it. -/
def markup? (text : List Char) : Option (Markup × List Char) :=
  let passed (rest : Option (List Char)) : Option (Markup × List Char) :=
    rest.map fun rest => (.passed, rest)
  match text with
  | '!' :: '-' :: _ => passed (afterComment text)
  | '!' :: '[' :: _ => passed (afterData text)
  | '!' :: _ => passed (afterDoctype text)
  | '?' :: _ => passed (afterInstruction text)
  | '/' :: rest => (takeTag none rest).map fun (content, rest) => (.endTag content, rest)
  | text => (takeTag none text).map fun (content, rest) => (.tag content, rest)

/-- The name in an end tag, without the blanks behind it. -/
def endName (content : List Char) : List Char :=
  if content.all isBlank then content else (content.reverse.dropWhile isBlank).reverse

/-- The elements that are open after an end tag; none if it matches no element. -/
def closeElement? (matched : Bool) (name : List Char) (opened : List (List Char)) :
    Option (List (List Char)) :=
  match opened with
  | [] => if matched then none else some []
  | top :: rest => if matched ∧ top ≠ name then none else some rest

/-- The events of a text in which some elements are open. With `matched`, end tags have to
match them. -/
def eventsFrom (matched : Bool) :
    Nat → List (List Char) → List Char → List (Except Fault Event)
  | 0, _, _ => []
  | fuel + 1, opened, text =>
    match text.dropWhile (· != '<') with
    | [] => []
    | _ :: text =>
      match markup? text with
      | none => [.error .markup]
      | some (.passed, rest) => eventsFrom matched fuel opened rest
      | some (.tag content, rest) =>
        if content.getLast? = some '/' then
          .ok (.empty (.ofContent content.dropLast)) :: eventsFrom matched fuel opened rest
        else
          let e := Element.ofContent content
          .ok (.start e) :: eventsFrom matched fuel (e.name :: opened) rest
      | some (.endTag content, rest) =>
        let name := endName content
        match closeElement? matched name opened with
        | none => [.error .markup]
        | some opened => .ok (.stop name) :: eventsFrom matched fuel opened rest

/-- The events of a document. -/
def events (text : String) : List (Except Fault Event) :=
  eventsFrom true (text.toList.length + 1) [] text.toList

/-- The events of a document whose end tags may have any name. -/
def looseEvents (text : String) : List (Except Fault Event) :=
  eventsFrom false (text.toList.length + 1) [] text.toList

/-- Fold a document event by event; a fault ends the fold where it stands. -/
def foldEvents (step : σ → Event → Except Fault σ) :
    σ → List (Except Fault Event) → Except Fault σ
  | s, [] => .ok s
  | _, .error fault :: _ => .error fault
  | s, .ok event :: rest =>
    match step s event with
    | .error fault => .error fault
    | .ok s => foldEvents step s rest

end SheetReport.Xml
