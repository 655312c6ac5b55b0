import SheetReport.Style.Format
import SheetReport.Xml.Event

/-!
# Number formats that show times

A number is a moment when its number format shows one. Predefined formats are told by their
number, custom ones by the letters of their code; the code is looked at as it is written in
the styles part, entities included.
-/

namespace SheetReport.TimeFormat

open Xml (Element Event Fault)

/-- The predefined formats that show dates, times or durations. -/
def isBuiltin (index : Nat) : Bool := (14 ≤ index && index ≤ 22) || (45 ≤ index && index ≤ 47)

/-- What has been read of a code. -/
structure Scan where
  escaped : Bool := false
  quoted : Bool := false
  /-- An `a` was read, which may begin a mark for halves of the day. -/
  halfDay : Bool := false
  brackets : Nat := 0
  /-- The last letters stand for elapsed time in brackets. -/
  elapsed : Bool := false
  previous : Char := ' '

/-- Read one character of a code: whether the code shows a time, if this is settled, or else
how reading goes on. -/
def Scan.step (s : Scan) (c : Char) : Sum Bool Scan :=
  let lower := c.toLower
  if s.escaped then .inr { s with escaped := false, previous := c }
  else if c = '_' ∨ c = '\\' then .inr { s with escaped := true, previous := c }
  else if s.quoted then .inr { s with quoted := c != '"', previous := c }
  else if c = '"' then .inr { s with quoted := true, previous := c }
  else if c = ';' then .inl false
  else if c = '[' then .inr { s with brackets := s.brackets + 1, previous := c }
  else if c = ']' then
    if s.brackets = 1 ∧ s.elapsed then .inl true
    else .inr { s with brackets := s.brackets - 1, previous := c }
  else if s.brackets = 0 ∧ !s.halfDay ∧ lower = 'a' then
    .inr { s with halfDay := true, previous := c }
  else if s.brackets = 0 ∧ s.halfDay ∧ (lower = 'p' ∨ lower = 'm' ∨ c = '/') then .inl true
  else if s.brackets = 0 ∧ !s.halfDay ∧ ['d', 'm', 'h', 'y', 's'].contains lower then .inl true
  else if s.elapsed ∧ lower = s.previous.toLower then .inr { s with previous := c }
  else
    .inr { s with
      elapsed := s.previous == '[' && (lower == 'm' || lower == 'h' || lower == 's')
      previous := c }

/-- Whether the rest of a code shows a time. -/
def scanCode (s : Scan) : List Char → Bool
  | [] => false
  | c :: rest =>
    match s.step c with
    | .inl answer => answer
    | .inr s => scanCode s rest

/-- Whether a custom format shows a time, by its code as it is written. -/
def isCustom (code : List Char) : Bool := scanCode {} code

/-- A code as it is written in an attribute. -/
def escapeCode (code : List Char) : List Char :=
  code.flatMap fun c =>
    match c with
    | '&' => "&amp;".toList
    | '"' => "&quot;".toList
    | '<' => "&lt;".toList
    | '>' => "&gt;".toList
    | '\n' => "&#xA;".toList
    | c => [c]

/-- Whether a number format shows a time. -/
def isTime : Option NumberFormat → Bool
  | none => false
  | some (.builtin index) => isBuiltin index
  | some (.custom code) => isCustom (escapeCode code.toList)

/-- The part of a styles part that is being read. -/
inductive Place where
  | outside
  | codes
  | formats
  | done
deriving DecidableEq

/-- What has been read of a styles part: the codes by their numbers as they are written, and
for each format, last one first, whether it shows a time. -/
structure State where
  place : Place := .outside
  codes : List (List Char × List Char) := []
  times : List Bool := []

/-- The attributes of an element, if none is faulty and no name stands twice. -/
def soundAttributes? (e : Element) : Option (List (List Char × List Char)) :=
  (e.rawAttributes.mapM id).bind fun attributes =>
    let keys := attributes.map Prod.fst
    if keys.eraseDups.length = keys.length then some attributes else none

/-- The values under a name, joined. -/
def valuesOf (name : String) (attributes : List (List Char × List Char)) : List Char :=
  (attributes.filter fun a => a.1 == name.toList).flatMap Prod.snd

/-- Read the code of a custom format. -/
def readCode (s : State) (e : Element) : Except Fault State :=
  match soundAttributes? e with
  | none => .error .attribute
  | some attributes =>
    let code := valuesOf "formatCode" attributes
    if code = [] then .ok s
    else .ok { s with codes := (valuesOf "numFmtId" attributes, code) :: s.codes }

/-- Whether a number, as it is written, stands for a format that shows a time. -/
def isTimeId (codes : List (List Char × List Char)) (id : List Char) : Bool :=
  match codes.find? fun c => c.1 == id with
  | some (_, code) => isCustom code
  | none =>
    match Number.digits? 48 id with
    | some n => isBuiltin n && id.length = 2
    | none => false

/-- Read a format. -/
def readFormat (s : State) (e : Element) : State :=
  let id := e.rawAttributes.findSome? fun a =>
    a.bind fun a => if a.1 = "numFmtId".toList then some a.2 else none
  { s with times := (id.map (isTimeId s.codes)).getD false :: s.times }

/-- Read the beginning of an element. -/
def startElement (s : State) (e : Element) : Except Fault State :=
  match s.place, e.localName with
  | .outside, "numFmts" => .ok { s with place := .codes }
  | .outside, "cellXfs" => .ok { s with place := .formats }
  | .codes, "numFmt" => readCode s e
  | .formats, "xf" => .ok (readFormat s e)
  | _, _ => .ok s

/-- Read the end of an element. -/
def stopElement (s : State) (name : String) : State :=
  match s.place, name with
  | .outside, "styleSheet" => { s with place := .done }
  | .codes, "numFmts" => { s with place := .outside }
  | .formats, "cellXfs" => { s with place := .outside }
  | _, _ => s

/-- Read an event of a styles part. -/
def step (s : State) : Event → Except Fault State
  | .start e => startElement s e
  | .empty e => (startElement s e).map fun s => stopElement s e.localName
  | .stop name => .ok (stopElement s (String.ofList (Xml.localName name)))

/-- Read events until the end of the styles; none if they end before. -/
def readEvents? : State → List (Except Fault Event) → Option State
  | s, events =>
    if s.place = .done then some s
    else
      match events with
      | [] => none
      | .error _ :: _ => none
      | .ok event :: rest =>
        match step s event with
        | .error _ => none
        | .ok s => readEvents? s rest

/-- For each format that a styles part lists, whether it shows a time; none if the part cannot
be read. -/
def ofText? (text : String) : Option (List Bool) :=
  (readEvents? {} (Xml.looseEvents text)).map fun s => s.times.reverse

end SheetReport.TimeFormat
