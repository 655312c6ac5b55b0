import SheetReport.Pattern.Escape

/-!
# Bracketed classes

A bracketed class lists characters, ranges and classes, may be negated, may contain further
brackets and may combine two lists by intersection `&&`, difference `--` or symmetric
difference `~~`, which associate to the left.
-/

namespace SheetReport.Pattern

/-- A way to combine two lists of a bracketed class. -/
inductive SetOperator where
  | inter
  | diff
  | symmDiff

/-- The combination of two sets. -/
def SetOperator.apply : SetOperator → CharSet → CharSet → CharSet
  | .inter, a, b => .inter a b
  | .diff, a, b => .diff a b
  | .symmDiff, a, b => .symmDiff a b

/-- The items of a list so far: their union, their number and how deep the deepest of them is
nested. -/
structure SetList where
  set : CharSet := .none
  count : Nat := 0
  depth : Nat := 0

/-- A list with one more item. -/
def SetList.push (l : SetList) (set : CharSet) (depth : Nat) : SetList :=
  ⟨.union l.set set, l.count + 1, max l.depth depth⟩

/-- A set and how deep its text is nested. -/
structure Nested where
  set : CharSet
  depth : Nat

/-- A finished list; several items make one more level. -/
def SetList.nested (l : SetList) : Nested :=
  ⟨l.set, if l.count < 2 then l.depth else l.depth + 1⟩

/-- A list and the operator that waits for its right side. -/
abbrev Pending := Option (Nested × SetOperator)

/-- A list combined with what waited for it. -/
def combine (f : Flags) (pending : Pending) (list : SetList) : Nested :=
  let right := list.nested
  match pending with
  | none => right
  | some (left, operator) =>
    ⟨operator.apply (f.fold left.set) (f.fold right.set), max left.depth right.depth + 1⟩

/-- The set of one element; none for an assertion. -/
def Element.set? (f : Flags) : Element → Option CharSet
  | .literal c => if f.unicode || c.toNat < 128 then some (.single c) else none
  | .set s => some s
  | .assertion _ => none

/-- One character or escape of a bracketed class. -/
def bracketElement? (f : Flags) : List Char → Option (Element × List Char)
  | [] => none
  | '\\' :: rest => escape? f rest
  | c :: rest => some (.literal c, rest)

/-- Whether a dash, followed by a text, stands for itself: another dash or the closing bracket
comes next. Where blanks are skipped, only one comment sign is passed over with them. -/
def isDashAlone (f : Flags) (text : List Char) : Bool :=
  let next :=
    if !f.skipBlanks then text
    else
      match text.dropWhile Text.isSpace with
      | '#' :: rest => rest.dropWhile Text.isSpace
      | rest => rest
  next.head? == some ']' || next.head? == some '-'

/-- An element, or a range between two characters. -/
def bracketRange? (f : Flags) (text : List Char) : Option (CharSet × List Char) := do
  let (low, rest) ← bracketElement? f text
  let rest := f.skip rest
  match rest with
  | [] => none
  | '-' :: after =>
    if isDashAlone f after then
      let set ← low.set? f
      some (set, rest)
    else
      let (high, rest) ← bracketElement? f (f.skip after)
      match low, high with
      | .literal a, .literal b =>
        if a ≤ b ∧ (f.unicode ∨ b.toNat < 128) then some (.range a b, rest) else none
      | _, _ => none
  | rest =>
    let set ← low.set? f
    some (set, rest)

/-- A word between colons after an opening bracket inside another bracket, and what follows its
closing bracket: the name of a class, after `^` that of the characters outside it. -/
def className? (text : List Char) : Option (Bool × CharSet × List Char) :=
  match text with
  | ':' :: rest =>
    let (negated, rest) :=
      match rest with
      | '^' :: rest => (true, rest)
      | rest => (false, rest)
    let name := rest.takeWhile (· != ':')
    match rest.drop name.length with
    | ':' :: ']' :: rest =>
      (CharSet.posix? (String.ofList name)).map fun set => (negated, set, rest)
    | _ => none
  | _ => none

/-- The dashes at the beginning of a list, and what follows them. -/
def leadingDashes (f : Flags) : Nat → SetList → List Char → SetList × List Char
  | 0, list, text => (list, text)
  | fuel + 1, list, text =>
    match f.skip text with
    | '-' :: rest => leadingDashes f fuel (list.push (.single '-') 0) rest
    | text => (list, text)

/-- The beginning of a bracketed class, read after its bracket: whether it is negated, and the
dashes or the closing bracket that stand first and mean themselves. -/
def bracketStart (f : Flags) (text : List Char) : Bool × SetList × List Char :=
  let (negated, text) :=
    match f.skip text with
    | '^' :: rest => (true, f.skip rest)
    | text => (false, text)
  match text with
  | ']' :: rest => (negated, SetList.push {} (.single ']') 0, rest)
  | '-' :: rest => (negated, leadingDashes f rest.length (SetList.push {} (.single '-') 0) rest)
  | text => (negated, {}, text)

/-- A finished class: folded as the flags ask, then negated. -/
def finish? (f : Flags) (negated : Bool) (inner : Nested) : Option Nested :=
  (f.negateIf? negated (f.fold inner.set)).map fun set => ⟨set, inner.depth + 1⟩

/-- The rest of a bracketed class up to its closing bracket. -/
def bracketRest? (f : Flags) :
    Nat → Pending → SetList → List Char → Option (Nested × List Char)
  | 0, _, _, _ => none
  | fuel + 1, pending, list, text =>
    match f.skip text with
    | [] => none
    | ']' :: rest => some (combine f pending list, rest)
    | '&' :: '&' :: rest => bracketRest? f fuel (some (combine f pending list, .inter)) {} rest
    | '-' :: '-' :: rest => bracketRest? f fuel (some (combine f pending list, .diff)) {} rest
    | '~' :: '~' :: rest =>
      bracketRest? f fuel (some (combine f pending list, .symmDiff)) {} rest
    | '[' :: rest =>
      match className? rest with
      | some (negated, set, rest) => do
        let set ← f.negateIf? negated (f.fold set)
        bracketRest? f fuel pending (list.push set 0) rest
      | none => do
        let (negated, first, rest) := bracketStart f rest
        let (inner, rest) ← bracketRest? f fuel none first rest
        let inner ← finish? f negated inner
        bracketRest? f fuel pending (list.push inner.set inner.depth) rest
    | text => do
      let (item, rest) ← bracketRange? f text
      bracketRest? f fuel pending (list.push item 0) rest

/-- A bracketed class, read after its opening bracket. -/
def bracket? (f : Flags) (text : List Char) : Option (Nested × List Char) := do
  let (negated, first, rest) := bracketStart f text
  let (inner, rest) ← bracketRest? f (text.length + 1) none first rest
  let set ← finish? f negated inner
  some (set, rest)

end SheetReport.Pattern
