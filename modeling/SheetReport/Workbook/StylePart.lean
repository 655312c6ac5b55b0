import SheetReport.Style.Format
import SheetReport.Xml.Event

/-!
# The styles part of a workbook

The formats of cells are listed in the styles part. Each refers by number to lists of number
formats, fonts and fills that stand in sections of their own, in any order.
-/

namespace SheetReport

/-- The alignment of a name. -/
def HorizontalAlign.ofName? : String → Option HorizontalAlign
  | "general" => some .general
  | "left" => some .left
  | "center" => some .center
  | "right" => some .right
  | "fill" => some .fill
  | "justify" => some .justify
  | "centerContinuous" => some .centerAcross
  | "distributed" => some .distributed
  | _ => none

/-- The alignment of a name. -/
def VerticalAlign.ofName? : String → Option VerticalAlign
  | "top" => some .top
  | "center" => some .center
  | "bottom" => some .bottom
  | "justify" => some .justify
  | "distributed" => some .distributed
  | _ => none

namespace StylePart

open Xml (Element Event Fault)

/-- The sections that are read. -/
inductive Section where
  | other
  | numberFormats
  | fonts
  | fills
  | cellFormats
deriving DecidableEq, Repr

/-- The section of an element's name. -/
def Section.ofName? : String → Option Section
  | "numFmts" => some .numberFormats
  | "fonts" => some .fonts
  | "fills" => some .fills
  | "cellXfs" => some .cellFormats
  | _ => none

/-- A format as it is listed: numbers that refer to other lists, and its own alignment. -/
structure Listed where
  number : Nat := 0
  font : Nat := 0
  fill : Nat := 0
  horizontal : Option HorizontalAlign := none
  vertical : Option VerticalAlign := none
  wrap : Bool := false
deriving DecidableEq, Inhabited

/-- What has been read of a styles part. Lists hold their last element first. -/
structure State where
  inside : Section := .other
  codes : OrderedMap Nat String := .empty
  fonts : List Font := []
  fills : List (Option Nat) := []
  /-- Whether the last fill pattern is solid. -/
  solid : Bool := false
  formats : List Listed := []

/-- Change the first element of a list. -/
def changeFirst (change : α → Except Fault α) : List α → Except Fault (List α)
  | [] => .ok []
  | a :: rest => (change a).map (· :: rest)

/-- The limit of 32-bit numbers. -/
def limit32 : Nat := 4294967296

/-- The limit of 64-bit numbers. -/
def limit64 : Nat := 18446744073709551616

/-- The colour of an element: the last six digits of its code. -/
def color? (e : Element) : Except Fault (Option Nat) :=
  (e.attribute? "rgb").map fun value => value.bind fun v =>
    Number.signedHex? limit32 (v.toList.drop (v.length - 6))

/-- A font with the property that an element states. -/
def fontProperty (e : Element) (f : Font) : Except Fault Font := do
  match e.localName with
  | "b" => .ok { f with bold := ← e.flag "val" true }
  | "i" => .ok { f with italic := ← e.flag "val" true }
  | "u" => .ok { f with underline := (← e.attribute? "val") != some "none" }
  | "sz" => .ok { f with size := ← e.parsed? "val" Number.float? }
  | "name" => .ok { f with name := ← e.attribute? "val" }
  | "color" => .ok { f with color := ← color? e }
  | _ => .ok f

/-- A format that an element lists. -/
def listed (e : Element) : Except Fault Listed := do
  let number ← e.parsed? "numFmtId" (Number.nat? limit32)
  let font ← e.parsed? "fontId" (Number.nat? limit64)
  let fill ← e.parsed? "fillId" (Number.nat? limit64)
  .ok { number := number.getD 0, font := font.getD 0, fill := fill.getD 0 }

/-- A format with the alignment that an element states. -/
def alignment (e : Element) (f : Listed) : Except Fault Listed := do
  let horizontal ← e.attribute? "horizontal"
  let vertical ← e.attribute? "vertical"
  let wrap ← e.flag "wrapText" false
  .ok
    { f with
      horizontal := horizontal.bind HorizontalAlign.ofName?
      vertical := vertical.bind VerticalAlign.ofName?
      wrap := wrap }

/-- Read an element of a section. -/
def readElement (s : State) (e : Element) : Except Fault State := do
  match s.inside, e.localName with
  | .numberFormats, "numFmt" =>
    let id ← e.parsed? "numFmtId" (Number.nat? limit32)
    let code ← e.attribute? "formatCode"
    match id, code with
    | some id, some code => .ok { s with codes := s.codes.insert id code }
    | _, _ => .ok s
  | .fonts, "font" => .ok { s with fonts := {} :: s.fonts }
  | .fonts, _ => .ok { s with fonts := ← changeFirst (fontProperty e) s.fonts }
  | .fills, "fill" => .ok { s with fills := none :: s.fills }
  | .fills, "patternFill" => .ok { s with solid := (← e.attribute? "patternType") == some "solid" }
  | .fills, "fgColor" =>
    if s.solid then .ok { s with fills := ← changeFirst (fun _ => color? e) s.fills } else .ok s
  | .cellFormats, "xf" => .ok { s with formats := (← listed e) :: s.formats }
  | .cellFormats, "alignment" => .ok { s with formats := ← changeFirst (alignment e) s.formats }
  | _, _ => .ok s

/-- Read an event of a styles part. -/
def step (s : State) : Event → Except Fault State
  | .start e =>
    match Section.ofName? e.localName with
    | some inside => .ok { s with inside := inside }
    | none => readElement s e
  | .empty e => readElement s e
  | .stop name =>
    match Section.ofName? (String.ofList (Xml.localName name)) with
    | some _ => .ok { s with inside := .other }
    | none => .ok s

/-- The number format under a number: a custom one, or a predefined one below 256 other than
the general format 0. -/
def numberFormat? (codes : OrderedMap Nat String) (id : Nat) : Option NumberFormat :=
  match codes.get? id with
  | some code => some (.custom code)
  | none => if id = 0 ∨ 256 ≤ id then none else some (.builtin id)

/-- A listed format with its references replaced; font 0 is the default font. -/
def Listed.resolve (codes : OrderedMap Nat String) (fonts : List Font)
    (fills : List (Option Nat)) (f : Listed) : CellFormat :=
  { number := numberFormat? codes f.number
    font := if f.font = 0 then none else fonts[f.font]?
    fill := fills[f.fill]?.join
    horizontal := f.horizontal
    vertical := f.vertical
    wrap := f.wrap }

/-- The formats of all that was read, first one first. -/
def State.resolve (s : State) : List CellFormat :=
  s.formats.reverse.map (Listed.resolve s.codes s.fonts.reverse s.fills.reverse)

/-- The formats that the events of a styles part list. -/
def ofEvents (events : List (Except Fault Event)) : Except Fault (List CellFormat) :=
  (Xml.foldEvents step {} events).map State.resolve

/-- The formats that a styles part lists. -/
def formats (text : String) : Except Fault (List CellFormat) := ofEvents (Xml.events text)

end StylePart

end SheetReport
