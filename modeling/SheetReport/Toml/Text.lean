import SheetReport.Number.Read

/-!
# Texts in TOML

Basic texts stand between double quotes and know escapes; literal ones stand between single
quotes and know none. Either kind may have three quotes on each side and then span several
lines.
-/

namespace SheetReport.Toml

open Number (hex?)

/-- What a reader finds, and the rest of the text. -/
abbrev Found (α : Type) := Option (α × List Char)

/-- Blanks within a line. -/
def isBlank (c : Char) : Bool := c == ' ' || c == '\t'

/-- Whether a character can stand for itself: no control character but the tab. -/
def isPlain (c : Char) : Bool := c == '\t' || (32 ≤ c.toNat && c.toNat != 127)

/-- What follows the end of a line. -/
def afterNewline? : List Char → Option (List Char)
  | '\n' :: rest => some rest
  | '\r' :: '\n' :: rest => some rest
  | _ => none

/-- The rest after the end of a line, if it begins with one. -/
def skipNewline (text : List Char) : List Char := (afterNewline? text).getD text

/-- The character with a code point in hexadecimal. -/
def charOfHex? (digits : List Char) : Option Char :=
  (hex? 0x110000 digits).bind fun n => if n.isValidChar then some (Char.ofNat n) else none

/-- The character of a short escape. -/
def shortEscape? : Char → Option Char
  | 'b' => some '\x08'
  | 'f' => some '\x0c'
  | 'n' => some '\n'
  | 'r' => some '\r'
  | 't' => some '\t'
  | '"' => some '"'
  | '\\' => some '\\'
  | _ => none

/-- The character of an escape without its backslash. -/
def escape? : List Char → Found Char
  | 'u' :: rest =>
    if rest.length < 4 then none else (charOfHex? (rest.take 4)).map fun c => (c, rest.drop 4)
  | 'U' :: rest =>
    if rest.length < 8 then none else (charOfHex? (rest.take 8)).map fun c => (c, rest.drop 8)
  | c :: rest => (shortEscape? c).map fun c => (c, rest)
  | [] => none

/-- Put characters before what a reader finds. -/
def Found.cons (cs : List Char) (found : Found (List Char)) : Found (List Char) :=
  found.map fun f => (cs ++ f.1, f.2)

/-- The rest of a basic text on one line, up to its closing quote. -/
def basicLine? : Nat → List Char → Found (List Char)
  | 0, _ | _, [] => none
  | _ + 1, '"' :: rest => some ([], rest)
  | fuel + 1, '\\' :: rest =>
    (escape? rest).bind fun (c, rest) => Found.cons [c] (basicLine? fuel rest)
  | fuel + 1, c :: rest => if isPlain c then Found.cons [c] (basicLine? fuel rest) else none

/-- Skip blanks and ends of lines. -/
def skipLines : List Char → List Char
  | '\n' :: rest => skipLines rest
  | '\r' :: '\n' :: rest => skipLines rest
  | c :: rest => if isBlank c then skipLines rest else c :: rest
  | [] => []

/-- The rest after a backslash that joins two lines. -/
def afterJoin? (text : List Char) : Option (List Char) :=
  (afterNewline? (text.dropWhile isBlank)).map skipLines

/-- The closing quotes of a text over several lines, three of a kind, after up to two that
belong to the text. -/
def closing? (quote : Char) (text : List Char) : Found (List Char) :=
  let run := (text.take 5).takeWhile (· == quote)
  if run.length < 3 then none else some (run.drop 3, text.drop run.length)

/-- The rest of a basic text over several lines. -/
def basicLines? : Nat → List Char → Found (List Char)
  | 0, _ => none
  | fuel + 1, text =>
    match closing? '"' text with
    | some found => some found
    | none =>
      match text with
      | '\\' :: rest =>
        match afterJoin? rest with
        | some rest => basicLines? fuel rest
        | none => (escape? rest).bind fun (c, rest) => Found.cons [c] (basicLines? fuel rest)
      | '\n' :: rest | '\r' :: '\n' :: rest => Found.cons ['\n'] (basicLines? fuel rest)
      | c :: rest => if isPlain c then Found.cons [c] (basicLines? fuel rest) else none
      | [] => none

/-- The rest of a literal text on one line. -/
def literalLine? : List Char → Found (List Char)
  | '\'' :: rest => some ([], rest)
  | c :: rest => if isPlain c then Found.cons [c] (literalLine? rest) else none
  | [] => none

/-- The rest of a literal text over several lines. -/
def literalLines? : Nat → List Char → Found (List Char)
  | 0, _ => none
  | fuel + 1, text =>
    match closing? '\'' text with
    | some found => some found
    | none =>
      match text with
      | '\n' :: rest | '\r' :: '\n' :: rest => Found.cons ['\n'] (literalLines? fuel rest)
      | c :: rest => if isPlain c then Found.cons [c] (literalLines? fuel rest) else none
      | [] => none

/-- A text on one line. -/
def line? : List Char → Found String
  | '"' :: rest =>
    (basicLine? (rest.length + 1) rest).map fun f => (String.ofList f.1, f.2)
  | '\'' :: rest => (literalLine? rest).map fun f => (String.ofList f.1, f.2)
  | _ => none

/-- A text of any kind. -/
def text? : List Char → Found String
  | '"' :: '"' :: '"' :: rest =>
    (basicLines? (rest.length + 1) (skipNewline rest)).map fun f => (String.ofList f.1, f.2)
  | '\'' :: '\'' :: '\'' :: rest =>
    (literalLines? (rest.length + 1) (skipNewline rest)).map fun f => (String.ofList f.1, f.2)
  | text => line? text

end SheetReport.Toml
