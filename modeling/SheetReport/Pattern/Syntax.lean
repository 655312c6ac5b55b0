import SheetReport.Pattern.CharSet

/-!
# Patterns

The expressions a pattern text stands for. Alternatives are ordered: the left one is preferred,
and a repetition is greedy or reluctant by the order of its two choices.
-/

namespace SheetReport

/-- A condition on a place in the text that reads nothing. -/
inductive Pattern.Assertion where
  | textStart
  | textEnd
  | lineStart (crlf : Bool)
  | lineEnd (crlf : Bool)
  | wordBoundary (ascii : Bool)
  | notWordBoundary (ascii : Bool)
  | wordStart (ascii : Bool)
  | wordEnd (ascii : Bool)
  | wordStartHalf (ascii : Bool)
  | wordEndHalf (ascii : Bool)
deriving DecidableEq

/-- How often a part is to be repeated, and whether more repetitions are preferred to fewer. -/
structure Pattern.Repetition where
  low : Nat
  /-- None where there is no upper limit. -/
  high : Option Nat
  greedy : Bool
deriving DecidableEq

/-- A pattern. -/
inductive Pattern where
  | empty
  | chars (set : Pattern.CharSet)
  | assertion (a : Pattern.Assertion)
  | seq (p q : Pattern)
  /-- Either pattern, the first preferred. -/
  | alt (p q : Pattern)
  /-- A pattern in parentheses, which may be captured. -/
  | group (captured : Bool) (p : Pattern)
  | repeated (r : Pattern.Repetition) (p : Pattern)
deriving DecidableEq, Inhabited

namespace Pattern

/-- Whether a character at the place counts as part of a word. -/
def isWordAt (ascii : Bool) : Option Char → Bool
  | none => false
  | some c => if ascii then Text.isWordAscii c else Text.isWord c

/-- Whether an assertion holds between two neighbouring characters. -/
def Assertion.holds (before after : Option Char) : Assertion → Bool
  | .textStart => before == none
  | .textEnd => after == none
  | .lineStart false => before == none || before == some '\n'
  | .lineStart true =>
    before == none || before == some '\n' || (before == some '\r' && after != some '\n')
  | .lineEnd false => after == none || after == some '\n'
  | .lineEnd true =>
    after == none || after == some '\r' || (after == some '\n' && before != some '\r')
  | .wordBoundary ascii => isWordAt ascii before != isWordAt ascii after
  | .notWordBoundary ascii => isWordAt ascii before == isWordAt ascii after
  | .wordStart ascii => !isWordAt ascii before && isWordAt ascii after
  | .wordEnd ascii => isWordAt ascii before && !isWordAt ascii after
  | .wordStartHalf ascii => !isWordAt ascii before
  | .wordEndHalf ascii => !isWordAt ascii after

/-- Whether a pattern can match without reading. -/
def nullable : Pattern → Bool
  | .empty | .assertion _ => true
  | .chars _ => false
  | .seq p q => p.nullable && q.nullable
  | .alt p q => p.nullable || q.nullable
  | .group _ p => p.nullable
  | .repeated r p => r.low == 0 || p.nullable

/-- Whether a pattern never reads. -/
def isVoid : Pattern → Bool
  | .empty | .assertion _ => true
  | .chars _ => false
  | .seq p q | .alt p q => p.isVoid && q.isVoid
  | .group _ p => p.isVoid
  | .repeated r p => r.high == some 0 || p.isVoid

/-- A pattern with a repetition. What never reads need not be repeated more than once. -/
def repeating (r : Repetition) (p : Pattern) : Pattern :=
  if p.isVoid then .repeated ⟨min 1 r.low, some (min 1 (r.high.getD 1)), r.greedy⟩ p
  else .repeated r p

end Pattern

end SheetReport
