import SheetReport.Text.CaseFold
import SheetReport.Text.CharClass

/-!
# Sets of characters in patterns

A set is an expression over ranges and the classes of words, digits and white space, closed
under the operations that a bracketed class can write. Membership is decided on the
expression; the ranges of a set are listed only where its extent is asked for.
-/

namespace SheetReport.Pattern

open Text (Category Ranges)

/-- An expression for a set of characters. -/
inductive CharSet where
  | none
  | range (low high : Char)
  | digit
  | space
  | word
  | listed (r : Ranges)
  | union (a b : CharSet)
  | inter (a b : CharSet)
  | diff (a b : CharSet)
  | symmDiff (a b : CharSet)
  | compl (a : CharSet)
  /-- Every case variant of a member. -/
  | anyCase (a : CharSet)
deriving DecidableEq, Inhabited

namespace CharSet

/-- Whether a character is in the set. -/
def contains : CharSet → Char → Bool
  | .none, _ => false
  | .range low high, c => low ≤ c && c ≤ high
  | .digit, c => Text.isDigit c
  | .space, c => Text.isSpace c
  | .word, c => Text.isWord c
  | .listed r, c => r.contains c.toNat
  | .union a b, c => a.contains c || b.contains c
  | .inter a b, c => a.contains c && b.contains c
  | .diff a b, c => a.contains c && !b.contains c
  | .symmDiff a b, c => a.contains c != b.contains c
  | .compl a, c => !a.contains c
  | .anyCase a, c => (Text.caseVariants c).any a.contains

/-- White space as ranges. -/
def spaceRanges : Ranges :=
  .ofText "9-d 20 85 a0 1680 2000-200a 2028-2029 202f 205f 3000"

/-- Circled letters and joiners, which count as parts of words. -/
def wordSymbols : Ranges := .ofText "200c-200d 24b6-24e9 1f130-1f149 1f150-1f169 1f170-1f189"

/-- Word characters as ranges. -/
def wordRanges : Ranges :=
  (Category.ranges fun c =>
    c.isLetter || c.isMark || c == .decimal || c == .letterNumber || c == .connector).union
    wordSymbols

/-- The ranges of a set. -/
def ranges : CharSet → Ranges
  | .none => []
  | .range low high => [(low.toNat, high.toNat)]
  | .digit => Category.rangesOf [.decimal]
  | .space => spaceRanges
  | .word => wordRanges
  | .listed r => r
  | .union a b => a.ranges.union b.ranges
  | .inter a b => a.ranges.inter b.ranges
  | .diff a b => a.ranges.diff b.ranges
  | .symmDiff a b => a.ranges.symmDiff b.ranges
  | .compl a => a.ranges.compl
  | .anyCase a => a.ranges.anyCase

/-- A number that the ranges of a set do not exceed. -/
def rangeBound : CharSet → Nat
  | .none => 0
  | .range _ _ => 1
  | .digit => 100
  | .space => 10
  | .word => 1000
  | .listed r => r.length
  | .union a b | .inter a b | .diff a b | .symmDiff a b => 2 * (a.rangeBound + b.rangeBound) + 1
  | .compl a => a.rangeBound + 1
  | .anyCase (.range low high) => min 3000 (5 * (high.toNat - low.toNat + 1))
  | .anyCase a => a.rangeBound + 3000

/-- The set of one character. -/
def single (c : Char) : CharSet := .range c c

/-- Every character. -/
def all : CharSet := .compl .none

/-- The union of several sets. -/
def unionOf (sets : List CharSet) : CharSet := sets.foldl .union .none

/-- The classes that are written `[:name:]` inside brackets. -/
def posix? : String → Option CharSet
  | "alnum" => some (.listed [(0x30, 0x39), (0x41, 0x5a), (0x61, 0x7a)])
  | "alpha" => some (.listed [(0x41, 0x5a), (0x61, 0x7a)])
  | "ascii" => some (.listed [(0, 0x7f)])
  | "blank" => some (.listed [(0x09, 0x09), (0x20, 0x20)])
  | "cntrl" => some (.listed [(0, 0x1f), (0x7f, 0x7f)])
  | "digit" => some (.listed [(0x30, 0x39)])
  | "graph" => some (.listed [(0x21, 0x7e)])
  | "lower" => some (.listed [(0x61, 0x7a)])
  | "print" => some (.listed [(0x20, 0x7e)])
  | "punct" => some (.listed [(0x21, 0x2f), (0x3a, 0x40), (0x5b, 0x60), (0x7b, 0x7e)])
  | "space" => some (.listed [(0x09, 0x0d), (0x20, 0x20)])
  | "upper" => some (.listed [(0x41, 0x5a)])
  | "word" => some (.listed [(0x30, 0x39), (0x41, 0x5a), (0x5f, 0x5f), (0x61, 0x7a)])
  | "xdigit" => some (.listed [(0x30, 0x39), (0x41, 0x46), (0x61, 0x66)])
  | _ => Option.none

end CharSet

end SheetReport.Pattern
