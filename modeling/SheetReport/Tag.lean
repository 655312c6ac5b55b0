import SheetReport.Number.Text
import SheetReport.Number.Read
import SheetReport.Text.Quoted

/-!
# Tags

A tag is a cell text between angle brackets. Four kinds are told apart by the text inside:

* `subtotal_`, a number, `_` and a column: the aggregate over that many rows above;
* `total_` and a column: the aggregate over the whole report;
* a name of ASCII letters, digits and underscores: an anchor or a placeholder;
* `total_bar`, or any other words and blanks: a decorative mark.

A text that begins like one of the first two kinds but does not follow its form is rejected
with a reason. Columns are made of word characters and blanks of any script.
-/

namespace SheetReport

/-- What a tag stands for. -/
inductive Tag where
  | anchor (name : String)
  | subtotal (size : Nat) (column : String)
  | total (column : String)
  | decorative (name : String)
deriving DecidableEq, Repr

/-- Why a text is no tag although it begins like one, or a column has no tag. -/
inductive TagError.Reason where
  | subtotalForm
  | totalForm
  | sizeTooLarge
  | sizeZero
  | column
deriving DecidableEq, Repr

/-- A rejected text or column name. -/
structure TagError where
  text : String
  reason : TagError.Reason
deriving DecidableEq, Repr

/-- The wording of a reason. -/
def TagError.Reason.message : TagError.Reason → String
  | .subtotalForm => "expected <subtotal_\x7bsize\x7d_\x7bcolumn\x7d>"
  | .totalForm => "expected <total_\x7bcolumn\x7d>"
  | .sizeTooLarge => "group size does not fit in 32 bits"
  | .sizeZero => "group size must be positive"
  | .column =>
    "column names may only contain word characters and spaces, " ++
      "and must not collide with a decorative tag"

/-- The wording of the error. -/
def TagError.message (e : TagError) : String := Text.quoted e.text ++ ": " ++ e.reason.message

namespace Tag

open Text (isDigit isWordAscii isWordOrSpace)

/-- The name of the anchor at the first data cell. -/
def dataStart : String := "data_start"

/-- The name of the anchor at the last data cell of a template. -/
def dataEnd : String := "data_end"

/-- The name of the anchor at the first header cell. -/
def headerStart : String := "header_start"

/-- The name of the mark on the closing row. -/
def totalBar : String := "total_bar"

/-- The anchors that every template has. -/
def structural : List String := [dataStart, dataEnd, headerStart]

/-- The limit of group sizes. -/
def sizeLimit : Nat := 4294967296

/-- What a subtotal's text begins with, inside the brackets. -/
def subtotalMark : List Char := "subtotal_".toList

/-- What a total's text begins with, inside the brackets. -/
def totalMark : List Char := "total_".toList

/-- A text between angle brackets. -/
def bracketed (inner : List Char) : List Char := '<' :: inner ++ ['>']

/-- What stands between the angle brackets of a text, at least one character. -/
def inner? (text : List Char) : Option (List Char) :=
  match text with
  | '<' :: rest =>
    if rest.getLast? = some '>' ∧ rest.dropLast ≠ [] then some rest.dropLast else none
  | _ => none

/-- Words and blanks, at least one character. -/
def isWords (text : List Char) : Bool := !text.isEmpty && text.all isWordOrSpace

/-- The size digits and the column of a subtotal, read after its mark. -/
def subtotalParts? (text : List Char) : Option (List Char × List Char) :=
  let digits := text.takeWhile isDigit
  match text.dropWhile isDigit with
  | '_' :: column => if digits ≠ [] ∧ isWords column = true then some (digits, column) else none
  | _ => none

/-- A subtotal, read after its mark. -/
def readSubtotal (text : List Char) : Except TagError.Reason Tag :=
  match subtotalParts? text with
  | none => .error .subtotalForm
  | some (digits, column) =>
    match Number.digits? sizeLimit digits with
    | none => .error .sizeTooLarge
    | some 0 => .error .sizeZero
    | some (size + 1) => .ok (.subtotal (size + 1) (String.ofList column))

/-- A total, read after its mark. -/
def readTotal (text : List Char) : Except TagError.Reason Tag :=
  if isWords text then .ok (.total (String.ofList text)) else .error .totalForm

/-- The tag of a text between the brackets; none if it is no tag at all. -/
def readInner (inner : List Char) : Except TagError.Reason (Option Tag) :=
  if inner = totalBar.toList then .ok (some (.decorative totalBar))
  else
    match subtotalMark.isPrefixOf? inner with
    | some rest => (readSubtotal rest).map some
    | none =>
      match totalMark.isPrefixOf? inner with
      | some rest => (readTotal rest).map some
      | none =>
        if inner.all isWordAscii then .ok (some (.anchor (String.ofList inner)))
        else if isWords inner then .ok (some (.decorative (String.ofList inner)))
        else .ok none

/-- The tag of a list of characters; none if they are no tag at all. -/
def readChars (text : List Char) : Except TagError.Reason (Option Tag) :=
  match inner? text with
  | none => .ok none
  | some inner => readInner inner

/-- The tag of a text; none if the text is no tag at all. -/
def read (text : String) : Except TagError (Option Tag) :=
  (readChars text.toList).mapError fun reason => ⟨text, reason⟩

/-- The text of a tag, inside the brackets. -/
def innerChars : Tag → List Char
  | .anchor name | .decorative name => name.toList
  | .subtotal size column =>
    subtotalMark ++ Number.natDigits size ++ '_' :: column.toList
  | .total column => totalMark ++ column.toList

/-- The text of a tag. -/
def text (t : Tag) : String := String.ofList (bracketed t.innerChars)

/-- Whether a column name can stand in a tag: words and blanks, and not the name that would
make a total read as the mark of the closing row. -/
def isEncodable (column : String) : Bool :=
  isWords column.toList && column != "bar"

/-- The subtotal of a column over a number of rows. -/
def subtotal? (size : Nat) (column : String) : Except TagError Tag :=
  if size = 0 then .error ⟨column, .sizeZero⟩
  else if isEncodable column then .ok (.subtotal size column)
  else .error ⟨column, .column⟩

/-- The total of a column. -/
def total? (column : String) : Except TagError Tag :=
  if isEncodable column then .ok (.total column) else .error ⟨column, .column⟩

/-- The column of a subtotal or a total. -/
def column? : Tag → Option String
  | .subtotal _ column | .total column => some column
  | .anchor _ | .decorative _ => none

/-- Whether a text has the shape that all tags share: words and blanks between brackets. -/
def looksLikeTag (text : String) : Bool := (inner? text.toList).any isWords

/-- Whether a text has the form of a subtotal of any size. -/
def looksLikeSubtotal (text : String) : Bool :=
  ((inner? text.toList).bind subtotalMark.isPrefixOf?).any fun rest => (subtotalParts? rest).isSome

/-- Whether a text has the form of a total. -/
def looksLikeTotal (text : String) : Bool :=
  ((inner? text.toList).bind totalMark.isPrefixOf?).any isWords

end Tag

end SheetReport
