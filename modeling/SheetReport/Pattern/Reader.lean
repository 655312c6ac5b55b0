import SheetReport.Pattern.Automaton
import SheetReport.Pattern.Bracket
import SheetReport.Pattern.Match
import SheetReport.Text.Later

/-!
# Reading pattern texts

A pattern text is a list of alternatives, each a sequence of parts; a part is a character, a
class, an assertion, a group, or a part with a repetition behind it. A text that is none, or
whose pattern would be too large, has no pattern.
-/

namespace SheetReport.Pattern

/-- A part of a sequence and how deep its text is nested. A part that only changes flags cannot
be repeated. -/
structure Part where
  pattern : Pattern
  depth : Nat := 0
  repeatable : Bool := true

/-- The deepest nesting of a pattern text. -/
def maxDepth : Nat := 250

/-- Parts, last one first, as one part: several of them make one more level. -/
def Part.join (operator : Pattern → Pattern → Pattern) (parts : List Part) : Part :=
  match parts with
  | [] => { pattern := .empty }
  | [p] => { p with repeatable := true }
  | last :: rest =>
    { pattern := rest.foldl (fun q p => operator p.pattern q) last.pattern
      depth := (parts.foldl (fun d p => max d p.depth) 0) + 1 }

/-- The parts of a sequence, last part first, as one part. -/
def Part.seq (parts : List Part) : Part := Part.join .seq parts

/-- Alternatives, last one first, as one part. -/
def Part.alt (parts : List Part) : Part := Part.join .alt parts

/-- All alternatives of a group, the finished ones and the parts of the last one, as one part. -/
def Part.whole (finished parts : List Part) : Part := Part.alt (Part.seq parts :: finished)

/-- A part made from another one around it. -/
def Part.around (p : Part) (pattern : Pattern) : Part :=
  { pattern := pattern, depth := p.depth + 1 }

/-- A part repeated; none if it cannot be. -/
def Part.repeat? (f : Flags) (r : Repetition) (p : Part) : Option Part :=
  if p.repeatable then
    some (p.around (repeating { r with greedy := r.greedy != f.swapGreed } p.pattern))
  else none

/-- The digits at the beginning of a text, with what is skipped after each, and what follows. -/
def takeDigits (f : Flags) : Nat → List Char → List Char × List Char
  | fuel + 1, c :: rest =>
    if Text.isDigitAscii c then
      let (digits, rest) := takeDigits f fuel (f.skip rest)
      (c :: digits, rest)
    else ([], c :: rest)
  | _, text => ([], text)

/-- A number with white space around it, and what follows. -/
def count? (f : Flags) (text : List Char) : Option (Nat × List Char) :=
  let (digits, rest) := takeDigits f text.length (text.dropWhile Text.isSpace)
  (Number.digits? 4294967296 digits).map fun n => (n, rest.dropWhile Text.isSpace)

/-- A lower and maybe an upper limit in braces, read after the opening brace. -/
def counts? (f : Flags) (text : List Char) : Option (Nat × Option Nat × List Char) := do
  let (low, rest) ← count? f text
  match rest with
  | '\x7d' :: rest => some (low, some low, rest)
  | ',' :: rest =>
    match f.skip rest with
    | '\x7d' :: rest => some (low, none, rest)
    | rest => do
      let (high, rest) ← count? f rest
      match rest with
      | '\x7d' :: rest => if low ≤ high then some (low, some high, rest) else none
      | _ => none
  | _ => none

/-- A question mark makes the repetition before it reluctant. -/
def greed (text : List Char) : Bool × List Char :=
  match text with
  | '?' :: rest => (false, rest)
  | rest => (true, rest)

/-- A repetition and what follows it; none if the text does not begin with one, or with
braces that hold no counts. -/
def repetition? (f : Flags) : List Char → Option (Repetition × List Char)
  | '?' :: rest => let (greedy, rest) := greed rest; some (⟨0, some 1, greedy⟩, rest)
  | '*' :: rest => let (greedy, rest) := greed rest; some (⟨0, none, greedy⟩, rest)
  | '+' :: rest => let (greedy, rest) := greed rest; some (⟨1, none, greedy⟩, rest)
  | '\x7b' :: rest => do
    let (low, high, rest) ← counts? f (f.skip rest)
    let (greedy, rest) := greed (f.skip rest)
    some (⟨low, high, greedy⟩, rest)
  | _ => none

/-- The part of an element outside brackets. -/
def Element.part (f : Flags) : Element → Part
  | .literal c =>
    let set := if f.unicode || c.toNat < 128 then f.fold (.single c) else .single c
    { pattern := .chars set }
  | .set s => { pattern := .chars s }
  | .assertion a => { pattern := .assertion a }

/-- What a dot stands for: any character, or any that does not end a line. -/
def dot? (f : Flags) : Option CharSet :=
  if !f.unicode then none
  else if f.dotAll then some .all
  else if f.crlf then some (.compl (.union (.single '\r') (.single '\n')))
  else some (.compl (.single '\n'))

/-- The assertion of a caret. -/
def caret (f : Flags) : Assertion := if f.multiLine then .lineStart f.crlf else .textStart

/-- The assertion of a dollar sign. -/
def dollar (f : Flags) : Assertion := if f.multiLine then .lineEnd f.crlf else .textEnd

/-- A single character or escape outside brackets as a part, and what follows it. -/
def single? (f : Flags) : List Char → Option (Part × List Char)
  | [] => none
  | '\\' :: rest => (escape? f rest).map fun (element, rest) => (element.part f, rest)
  | '.' :: rest => (dot? f).map fun set => ({ pattern := .chars set }, rest)
  | '^' :: rest => some ({ pattern := .assertion (caret f) }, rest)
  | '$' :: rest => some ({ pattern := .assertion (dollar f) }, rest)
  | c :: rest => some ((Element.literal c).part f, rest)

/-- The flags of a group up to its colon or closing parenthesis, whether there was any, that
mark and what follows it. A minus sign switches the flags after it off; no flag may stand
twice, and a flag must follow the sign. -/
def groupFlags? (f : Flags) (seen : List Char) (on : Bool) :
    List Char → Option (Flags × Bool × Char × List Char)
  | [] => none
  | c :: rest =>
    if c = ':' ∨ c = ')' then
      if seen.head? = some '-' then none else some (f, !seen.isEmpty, c, rest)
    else if seen.contains c then none
    else if c = '-' then groupFlags? f ('-' :: seen) false rest
    else (f.set? on c).bind fun f => groupFlags? f (c :: seen) on rest

/-- Whether a character may stand in a group's name. -/
def isNameChar (first : Bool) (c : Char) : Bool :=
  c == '_' || if first then Text.isAlphabetic c
    else c == '.' || c == '[' || c == ']' || Text.isAlphanumeric c

/-- The name of a group up to its closing angle bracket. -/
def groupName? (text : List Char) : Option (List Char × List Char) :=
  let name := text.takeWhile (· != '>')
  match name, text.drop name.length with
  | first :: others, '>' :: rest =>
    if isNameChar true first && others.all (isNameChar false) then some (name, rest) else none
  | _, _ => none

/-- How a group begins. -/
inductive GroupStart where
  /-- Only flags, for the rest of the group around it. -/
  | flags (f : Flags)
  /-- A group with its flags that captures nothing. -/
  | plain (f : Flags)
  /-- A group that is captured, maybe under a name. -/
  | captured (name : Option (List Char))

/-- The beginning of a group, read after its parenthesis, and what follows it. -/
def groupStart? (f : Flags) (text : List Char) : Option (GroupStart × List Char) :=
  let named (rest : List Char) : Option (GroupStart × List Char) :=
    (groupName? rest).map fun (name, rest) => (.captured (some name), rest)
  match f.skip text with
  | '?' :: 'P' :: '<' :: rest => named rest
  | '?' :: '<' :: rest => named rest
  | '?' :: rest => do
    let (flags, given, mark, rest) ← groupFlags? f [] true rest
    if mark = ')' then if given then some (.flags flags, rest) else none
    else some (.plain flags, rest)
  | text => some (.captured none, text)

/-- The parts of a sequence with the last one repeated. -/
def repeatLast? (f : Flags) (r : Repetition) : List Part → Option (List Part)
  | [] => none
  | p :: rest => (p.repeat? f r).map (· :: rest)

/-- The alternatives of a group up to its closing parenthesis or the end of the text, with
the finished alternatives, the parts of the current one and the group names so far. Gives the
group as one part, all names and the rest of the text. -/
def alternatives? : Nat → Flags → List (List Char) → List Part → List Part → List Char →
    Option (Part × List (List Char) × List Char)
  | 0, _, _, _, _, _ => none
  | fuel + 1, f, names, finished, parts, text =>
    match f.skip text with
    | [] => some (Part.whole finished parts, names, [])
    | ')' :: rest => some (Part.whole finished parts, names, ')' :: rest)
    | '|' :: rest => alternatives? fuel f names (Part.seq parts :: finished) [] rest
    | '[' :: rest => do
      let (found, rest) ← bracket? f rest
      let part : Part := { pattern := .chars found.set, depth := found.depth }
      alternatives? fuel f names finished (part :: parts) rest
    | '(' :: rest => do
      let (start, rest) ← groupStart? f rest
      let enter (captured : Bool) (inner : Flags) (name : Option (List Char)) := do
        let (part, names, rest) ← alternatives? fuel inner (name.toList ++ names) [] [] rest
        match rest with
        | ')' :: rest =>
          let part := part.around (.group captured part.pattern)
          alternatives? fuel f names finished (part :: parts) rest
        | _ => none
      match start with
      | .flags f =>
        let part : Part := { pattern := .empty, repeatable := false }
        alternatives? fuel f names finished (part :: parts) rest
      | .plain inner => enter false inner none
      | .captured name => if name.any names.contains then none else enter true f name
    | c :: rest =>
      if c = '?' ∨ c = '*' ∨ c = '+' ∨ c = '\x7b' then do
        let (r, rest) ← repetition? f (c :: rest)
        let parts ← repeatLast? f r parts
        alternatives? fuel f names finished parts rest
      else do
        let (part, rest) ← single? f (c :: rest)
        alternatives? fuel f names finished (part :: parts) rest

/-- The pattern a text stands for. -/
def read? (text : String) : Option Pattern :=
  let chars := text.toList
  match alternatives? (chars.length + 1) {} [] [] [] chars with
  | some (part, _, []) =>
    if part.depth ≤ maxDepth ∧ Automaton.fits part.pattern then some part.pattern else none
  | _ => none

end SheetReport.Pattern
