import SheetReport.Number.Read
import SheetReport.Pattern.Property
import SheetReport.Pattern.Syntax

/-!
# Flags and escapes of pattern texts

What a backslash and the characters after it stand for. Flags change this: without the flag
for Unicode the classes hold ASCII characters only, and with the flag for blanks, white space
and comments between the characters of a pattern are skipped.
-/

namespace SheetReport.Pattern

/-- The settings that a pattern text can change. -/
structure Flags where
  ignoreCase : Bool := false
  multiLine : Bool := false
  dotAll : Bool := false
  swapGreed : Bool := false
  unicode : Bool := true
  crlf : Bool := false
  skipBlanks : Bool := false

/-- Switch the flag of a letter on or off; none if the letter names no flag. -/
def Flags.set? (f : Flags) (on : Bool) : Char → Option Flags
  | 'i' => some { f with ignoreCase := on }
  | 'm' => some { f with multiLine := on }
  | 's' => some { f with dotAll := on }
  | 'U' => some { f with swapGreed := on }
  | 'u' => some { f with unicode := on }
  | 'R' => some { f with crlf := on }
  | 'x' => some { f with skipBlanks := on }
  | _ => none

/-- What follows white space and comments; a comment runs from `#` to the end of its line. -/
def afterBlanks (inComment : Bool) : List Char → List Char
  | [] => []
  | c :: rest =>
    if inComment then afterBlanks (c != '\n') rest
    else if Text.isSpace c then afterBlanks false rest
    else if c = '#' then afterBlanks true rest
    else c :: rest

/-- What follows the characters that the flags make meaningless. -/
def Flags.skip (f : Flags) (text : List Char) : List Char :=
  if f.skipBlanks then afterBlanks false text else text

/-- The ASCII characters. -/
def CharSet.ascii : CharSet := .range '\x00' '\x7f'

/-- The letters, digits and the underscore of ASCII. -/
def CharSet.asciiWord : CharSet :=
  .unionOf [.range '0' '9', .range 'A' 'Z', .single '_', .range 'a' 'z']

/-- The case variants of a set's members as the flags count them. -/
def Flags.fold (f : Flags) (set : CharSet) : CharSet :=
  if !f.ignoreCase then set
  else if f.unicode then .anyCase set
  else .union set (.inter (.anyCase (.inter set .ascii)) .ascii)

/-- What one element of a pattern text stands for. -/
inductive Element where
  | literal (c : Char)
  | set (s : CharSet)
  | assertion (a : Assertion)

/-- The class of a letter `d`, `s` or `w`. -/
def letterClass? (f : Flags) : Char → Option CharSet
  | 'd' => some (if f.unicode then .digit else .range '0' '9')
  | 's' => some (if f.unicode then .space else .union (.range '\t' '\r') (.single ' '))
  | 'w' => some (if f.unicode then .word else .asciiWord)
  | _ => none

/-- A set, or the characters outside it. Without Unicode a set is one of single bytes, and no
such set may reach beyond ASCII. -/
def Flags.negateIf? (f : Flags) (negated : Bool) (set : CharSet) : Option CharSet :=
  if !negated then some set else if f.unicode then some (.compl set) else none

/-- Whether a character may be escaped to stand for itself. -/
def isEscapable (c : Char) : Bool :=
  c.toNat < 128 && !Text.isLetterAscii c && !Text.isDigitAscii c && c != '<' && c != '>'

/-- The character a hexadecimal code stands for. -/
def codePoint? (digits : List Char) : Option Char :=
  (Number.hex? 0x110000 digits).bind fun n =>
    if 0xd800 ≤ n ∧ n < 0xe000 then none else some (Char.ofNat n)

/-- A number of characters with blanks skipped before each, and what follows. -/
def takeSkipping (f : Flags) : Nat → List Char → Option (List Char × List Char)
  | 0, text => some ([], text)
  | n + 1, text =>
    match f.skip text with
    | [] => none
    | c :: rest => (takeSkipping f n rest).map fun (taken, rest) => (c :: taken, rest)

/-- The characters up to a closing brace without the blanks that are skipped, and what follows
the brace. -/
def takeBraced (f : Flags) : Nat → List Char → Option (List Char × List Char)
  | 0, _ => none
  | fuel + 1, text =>
    match f.skip text with
    | [] => none
    | '\x7d' :: rest => some ([], rest)
    | c :: rest => (takeBraced f fuel rest).map fun (taken, rest) => (c :: taken, rest)

/-- A character written by its code: two, four or eight digits, or any number in braces. -/
def hexEscape? (f : Flags) (width : Nat) (text : List Char) : Option (Element × List Char) :=
  match f.skip text with
  | '\x7b' :: rest => do
    let (digits, rest) ← takeBraced f (rest.length + 1) rest
    let c ← codePoint? digits
    some (.literal c, f.skip rest)
  | text => do
    let (digits, rest) ← takeSkipping f width text
    let c ← codePoint? digits
    if !f.unicode && width == 2 && 128 ≤ c.toNat then none
    else some (.literal c, f.skip rest)

/-- The two sides of the first place where `mark` stands in a text. -/
def splitAt? (mark : List Char) : List Char → Option (List Char × List Char)
  | [] => none
  | c :: rest =>
    if mark.isPrefixOf (c :: rest) then some ([], (c :: rest).drop mark.length)
    else (splitAt? mark rest).map fun (before, after) => (c :: before, after)

/-- The characters under the name in the braces of a property escape, and whether the others
are meant. -/
def namedProperty? (name : List Char) : Option (Text.Ranges × Bool) :=
  match splitAt? ['!', '='] name with
  | some (name, value) => (Property.withValue? name value).map (·, true)
  | none =>
    match (splitAt? [':'] name).or (splitAt? ['='] name) with
    | some (name, value) => (Property.withValue? name value).map (·, false)
    | none => (Property.named? name).map (·, false)

/-- A class of characters by a property, written after `p` or `P`. -/
def propertyEscape? (f : Flags) (negated : Bool) (text : List Char) :
    Option (Element × List Char) := do
  let ((set, others), rest) ←
    match f.skip text with
    | [] => none
    | '\x7b' :: rest => do
      let (name, rest) ← takeBraced f (rest.length + 1) rest
      let property ← namedProperty? name
      some (property, rest)
    | c :: rest => do
      let set ← Property.named? [c]
      some ((set, false), f.skip rest)
  if !f.unicode then none
  else do
    let set ← f.negateIf? (negated != others) (f.fold (.listed set))
    some (.set set, rest)

/-- A kind of word boundary in braces after `b`. Other braces are left to what follows; none
if the braces are not closed or name no kind. -/
def boundaryEscape? (f : Flags) (text : List Char) : Option (Element × List Char) :=
  let ascii := !f.unicode
  let plain : Element := .assertion (.wordBoundary ascii)
  match text with
  | '\x7b' :: rest =>
    let isNameChar (c : Char) : Bool := Text.isLetterAscii c || c == '-'
    match f.skip rest with
    | [] => none
    | c :: _ =>
      if !isNameChar c then some (plain, text)
      else do
        let (name, rest) ← takeBraced f (rest.length + 1) rest
        let a ←
          match String.ofList name with
          | "start" => some (Assertion.wordStart ascii)
          | "end" => some (Assertion.wordEnd ascii)
          | "start-half" => some (Assertion.wordStartHalf ascii)
          | "end-half" => some (Assertion.wordEndHalf ascii)
          | _ => none
        some (.assertion a, rest)
  | text => some (plain, text)

/-- What an escape stands for, read after its backslash, and what follows it. -/
def escape? (f : Flags) (text : List Char) : Option (Element × List Char) :=
  match text with
  | [] => none
  | c :: rest =>
    let ascii := !f.unicode
    match letterClass? f c.toLower with
    | some set => (f.negateIf? c.isUpper set).map fun set => (.set set, rest)
    | none =>
      match c with
      | 'x' => hexEscape? f 2 rest
      | 'u' => hexEscape? f 4 rest
      | 'U' => hexEscape? f 8 rest
      | 'p' => propertyEscape? f false rest
      | 'P' => propertyEscape? f true rest
      | 'a' => some (.literal '\x07', rest)
      | 'f' => some (.literal '\x0c', rest)
      | 't' => some (.literal '\t', rest)
      | 'n' => some (.literal '\n', rest)
      | 'r' => some (.literal '\r', rest)
      | 'v' => some (.literal '\x0b', rest)
      | 'A' => some (.assertion .textStart, rest)
      | 'z' => some (.assertion .textEnd, rest)
      | 'b' => boundaryEscape? f rest
      | 'B' => some (.assertion (.notWordBoundary ascii), rest)
      | '<' => some (.assertion (.wordStart ascii), rest)
      | '>' => some (.assertion (.wordEnd ascii), rest)
      | c => if isEscapable c then some (.literal c, rest) else none

end SheetReport.Pattern
