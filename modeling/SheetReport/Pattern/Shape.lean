import SheetReport.Pattern.Syntax

/-!
# Shapes of patterns

A shape is what is left of a pattern when differences that do not matter to its size are taken
away: neighbouring characters are one literal, a set of one character is that character,
alternatives that are sets are one set, and what all alternatives begin with stands in front of
them. Sequences and alternatives are nested to the right.
-/

namespace SheetReport.Pattern

open Text (Ranges)

/-- A simplified pattern. -/
inductive Shape where
  | empty
  | literal (text : List Char)
  | set (r : Ranges)
  | assertion (a : Assertion)
  | captured (s : Shape)
  | seq (s t : Shape)
  | alt (s t : Shape)
  | repeated (r : Repetition) (s : Shape)
deriving DecidableEq, Inhabited

namespace Shape

/-- A set of characters; one character is a literal. -/
def ofRanges : Ranges → Shape
  | [(a, b)] => if a = b then .literal [Char.ofNat a] else .set [(a, b)]
  | r => .set r

/-- One shape after another. -/
def append : Shape → Shape → Shape
  | .empty, t => t
  | .seq s s', t => .seq s (append s' t)
  | s, .empty => s
  | .literal a, .literal b => .literal (a ++ b)
  | .literal a, .seq (.literal b) t => .seq (.literal (a ++ b)) t
  | s, t => .seq s t

/-- The parts of a sequence. -/
def parts : Shape → List Shape
  | .seq s t => s :: t.parts
  | s => [s]

/-- The alternatives of a shape. -/
def choices : Shape → List Shape
  | .alt s t => s :: t.choices
  | s => [s]

/-- Some alternatives as they stand. -/
def ofChoices : List Shape → Shape
  | [] => .set []
  | [s] => s
  | s :: rest => .alt s (ofChoices rest)

/-- The character of a literal of length one. -/
def single? : Shape → Option (Nat × Nat)
  | .literal [c] => some (c.toNat, c.toNat)
  | _ => none

/-- The ranges of a set. -/
def set? : Shape → Option Ranges
  | .set r => some r
  | _ => none

/-- Alternatives as one set, if all of them are characters or all of them are sets. -/
def asSet? (choices : List Shape) : Option Ranges :=
  ((choices.mapM single?).map Ranges.ofList).or ((choices.mapM set?).map Ranges.unionOf)

/-- Alternatives, those of alternatives included, as one set or as they stand. -/
def join (shapes : List Shape) : Shape :=
  let choices := shapes.flatMap choices
  if choices.length < 2 then ofChoices choices
  else
    match asSet? choices with
    | some r => ofRanges r
    | none => ofChoices choices

/-- Whether something in a shape is captured. -/
def captures : Shape → Bool
  | .captured _ => true
  | .seq s t | .alt s t => s.captures || t.captures
  | .repeated _ s => s.captures
  | _ => false

/-- The number of parts that two sequences have in common at their beginnings. No two groups
that are captured are the same. -/
def commonParts : List Shape → List Shape → Nat
  | s :: rest, t :: others => if s = t ∧ !s.captures then commonParts rest others + 1 else 0
  | _, _ => 0

/-- The number of parts that all alternatives have in common; none unless each is a sequence. -/
def commonLength (choices : List Shape) : Nat :=
  match choices.map parts with
  | [] => 0
  | first :: rest =>
    if (first :: rest).any (·.length < 2) then 0
    else rest.foldl (fun n others => min n (commonParts first others)) first.length

/-- Alternatives as one shape. -/
def alternatives : List Shape → Shape
  | [s] => s
  | shapes =>
    let shape := join shapes
    let choices := shape.choices
    match commonLength choices with
    | 0 => shape
    | n + 1 =>
      if choices.length < 2 then shape
      else
        let rests := choices.map fun s => (s.parts.drop (n + 1)).foldr append .empty
        ((choices.headD .empty).parts.take (n + 1)).foldr append (join rests)

/-- A repetition; none at all is nothing, and exactly once is the shape itself. -/
def times (r : Repetition) (s : Shape) : Shape :=
  if r.high = some 0 then .empty
  else if r.low = 1 ∧ r.high = some 1 then s
  else .repeated r s

/-- The least number of characters that a shape reads; none if it cannot match. -/
def minLength? : Shape → Option Nat
  | .empty | .assertion _ => some 0
  | .literal text => some text.length
  | .set r => if r.isEmpty then none else some 1
  | .captured s => s.minLength?
  | .seq s t => do some ((← s.minLength?) + (← t.minLength?))
  | .alt s t => do some (min (← s.minLength?) (← t.minLength?))
  | .repeated r s => s.minLength?.map (r.low * ·)

/-- Whether a shape never reads. -/
def isVoid : Shape → Bool
  | .empty | .assertion _ => true
  | .literal _ | .set _ => false
  | .captured s | .repeated _ s => s.isVoid
  | .seq s t | .alt s t => s.isVoid && t.isVoid

/-- Whether a match can begin at the start of the text only. -/
def beginsAtStart : Shape → Bool
  | .assertion a => a == .textStart
  | .captured s => s.beginsAtStart
  | .seq s t => s.beginsAtStart || (s.isVoid && t.beginsAtStart)
  | .alt s t => s.beginsAtStart && t.beginsAtStart
  | .repeated r s => r.low != 0 && s.beginsAtStart
  | _ => false

/-- Whether a match can end at the end of the text only. -/
def endsAtEnd : Shape → Bool
  | .assertion a => a == .textEnd
  | .captured s => s.endsAtEnd
  | .seq s t => t.endsAtEnd || (t.isVoid && s.endsAtEnd)
  | .alt s t => s.endsAtEnd && t.endsAtEnd
  | .repeated r s => r.low != 0 && s.endsAtEnd
  | _ => false

end Shape

/-- The shapes of the alternatives of a pattern. -/
def choiceShapes : Pattern → List Shape
  | .empty => [.empty]
  | .chars s => [Shape.ofRanges s.ranges]
  | .assertion a => [.assertion a]
  | .seq p q => [(Shape.alternatives p.choiceShapes).append (Shape.alternatives q.choiceShapes)]
  | .alt p q => Shape.alternatives p.choiceShapes :: q.choiceShapes
  | .group captured p =>
    let s := Shape.alternatives p.choiceShapes
    [if captured then .captured s else s]
  | .repeated r p => [Shape.times r (Shape.alternatives p.choiceShapes)]

/-- The shape of a pattern. -/
def shape (p : Pattern) : Shape := Shape.alternatives p.choiceShapes

end SheetReport.Pattern
