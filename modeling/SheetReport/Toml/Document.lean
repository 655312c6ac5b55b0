import SheetReport.Toml.Scalar

/-!
# Reading TOML documents

A document is a list of lines, each with a key and its value, a header, a comment or nothing.
Values nest at most a fixed number of levels deep, and keys have at most as many parts.
-/

namespace SheetReport.Toml

/-- The first depth that is too deep. -/
def depthLimit : Nat := 80

/-- Whether a character can stand in a key without quotes. -/
def isBareKey (c : Char) : Bool :=
  Text.isLetterAscii c || Text.isDigitAscii c || c == '_' || c == '-'

/-- One part of a key. -/
def keyPart? (text : List Char) : Found String :=
  match text with
  | '"' :: _ | '\'' :: _ => line? text
  | _ =>
    let bare := text.takeWhile isBareKey
    if bare = [] then none else some (String.ofList bare, text.drop bare.length)

/-- The parts of a key, with dots between them and blanks around them. -/
def keyParts? : Nat → List Char → Found (List String)
  | 0, _ => none
  | fuel + 1, text =>
    (keyPart? (text.dropWhile isBlank)).bind fun (part, rest) =>
      match rest.dropWhile isBlank with
      | '.' :: rest => (keyParts? fuel rest).map fun f => (part :: f.1, f.2)
      | rest => some ([part], rest)

/-- A key: the path that leads to it and its last part. -/
def key? (text : List Char) : Found (List String × String) :=
  (keyParts? (text.length + 1) text).bind fun (parts, rest) =>
    if depthLimit ≤ parts.length then none
    else parts.getLast?.map fun last => ((parts.dropLast, last), rest)

/-- The rest after a comment, which ends before the end of its line; none if the comment holds a
control character. -/
def afterComment? (text : List Char) : Option (List Char) :=
  match text.dropWhile isPlain with
  | [] => some []
  | rest => (afterNewline? rest).map fun _ => rest

/-- Skip blanks, ends of lines and comments between the items of an array. -/
def skipGaps? : Nat → List Char → Option (List Char)
  | 0, text => some text
  | fuel + 1, text =>
    match skipLines text with
    | '#' :: rest => (afterComment? rest).bind (skipGaps? fuel)
    | rest => some rest

/-- Skip everything between the items of an array. -/
def gap? (text : List Char) : Option (List Char) := skipGaps? (text.length + 1) text

mutual

/-- A value, inside a number of arrays and tables. -/
def value? (depth : Nat) : Nat → List Char → Found Value
  | 0, _ => none
  | fuel + 1, text =>
    match text with
    | '"' :: _ | '\'' :: _ => (text? text).map fun f => (.text f.1, f.2)
    | '[' :: rest => if depthLimit ≤ depth + 1 then none else items? (depth + 1) fuel [] rest
    | '\x7b' :: rest =>
      if depthLimit ≤ depth + 1 then none
      else
        match rest.dropWhile isBlank with
        | '\x7d' :: rest => some (.table .inline [], rest)
        | rest => pairs? (depth + 1) fuel [] rest
    | 't' :: _ | 'f' :: _ => bool? text
    | _ => quantity? text

/-- The items of an array, after some that have been read. -/
def items? (depth : Nat) : Nat → List Value → List Char → Found Value
  | 0, _, _ => none
  | fuel + 1, items, text =>
    (gap? text).bind fun rest =>
      match rest with
      | ']' :: rest => some (.array items, rest)
      | rest => do
        let (v, rest) ← value? depth fuel rest
        match ← gap? rest with
        | ',' :: rest => items? depth fuel (items ++ [v]) rest
        | ']' :: rest => some (.array (items ++ [v]), rest)
        | _ => none

/-- The keys and values of a table between braces, after some that have been read. -/
def pairs? (depth : Nat) : Nat → Entries → List Char → Option (Value × List Char)
  | 0, _, _ => none
  | fuel + 1, entries, text => do
    let ((path, key), rest) ← key? text
    let rest ← after? '=' rest
    let (v, rest) ← value? depth fuel (rest.dropWhile isBlank)
    let entries ← entries.assign? v key path .inline
    match rest.dropWhile isBlank with
    | ',' :: rest => pairs? depth fuel entries rest
    | '\x7d' :: rest => some (.table .inline entries, rest)
    | _ => none

end

/-- The rest after the end of a line, before which blanks and a comment may stand. -/
def afterLine? (text : List Char) : Option (List Char) :=
  let rest :=
    match text.dropWhile isBlank with
    | '#' :: rest => afterComment? rest
    | rest => some rest
  rest.bind fun rest => if rest = [] then some [] else afterNewline? rest

/-- A document while it is read. -/
structure Reading where
  /-- The path of the last header. -/
  header : List String := []
  entries : Entries := []

/-- Read a key and its value. -/
def Reading.pair? (r : Reading) (text : List Char) : Option (Reading × List Char) := do
  let ((path, key), rest) ← key? text
  let rest ← after? '=' rest
  let (v, rest) ← value? 0 (2 * rest.length + 2) (rest.dropWhile isBlank)
  let entries ← r.entries.update? false (Entries.assign? v key path) .header r.header
  some ({ r with entries := entries }, ← afterLine? rest)

/-- Read a header after its opening bracket. -/
def Reading.header? (r : Reading) (text : List Char) : Option (Reading × List Char) := do
  let ((path, key), rest) ← key? text
  let rest ← after? ']' rest
  let entries ← r.entries.update? false (Entries.openTable? key) .header path
  some ({ header := path ++ [key], entries := entries }, ← afterLine? rest)

/-- Read a header of a repeated table after its opening brackets. -/
def Reading.repeated? (r : Reading) (text : List Char) : Option (Reading × List Char) := do
  let ((path, key), rest) ← key? text
  let rest ← after? ']' (← after? ']' rest)
  let entries ← r.entries.update? false (Entries.openRepeated? key) .header path
  some ({ header := path ++ [key], entries := entries }, ← afterLine? rest)

/-- Read line after line. -/
def Reading.run? : Nat → Reading → List Char → Option Reading
  | 0, _, _ => none
  | fuel + 1, r, text =>
    match text.dropWhile isBlank with
    | [] => some r
    | '[' :: '[' :: rest => (r.repeated? rest).bind fun f => run? fuel f.1 f.2
    | '[' :: rest => (r.header? rest).bind fun f => run? fuel f.1 f.2
    | c :: rest =>
      if c = '#' ∨ c = '\n' ∨ c = '\r' then
        (afterLine? (c :: rest)).bind fun rest => run? fuel r rest
      else (r.pair? (c :: rest)).bind fun f => run? fuel f.1 f.2

/-- The entries of a document; none if it is no TOML. A byte order mark may stand at its
start. -/
def document? (text : String) : Option Entries :=
  let chars :=
    match text.toList with
    | '\ufeff' :: rest => rest
    | chars => chars
  (Reading.run? (chars.length + 1) {} chars).map (·.entries)

end SheetReport.Toml
