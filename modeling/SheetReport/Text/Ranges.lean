import SheetReport.Text.Table

/-!
# Sets of characters as ranges

A set of characters is listed as closed ranges of code points in increasing order, with a code
point between any two. A range may span the surrogates, which are no characters; the
characters at their two sides are neighbours.
-/

namespace SheetReport.Text

/-- Closed ranges of code points, in increasing order and apart from each other. -/
abbrev Ranges := List (Nat × Nat)

namespace Ranges

/-- The last code point. -/
def last : Nat := 0x10ffff

/-- The character after a code point. -/
def after (n : Nat) : Nat := if n = 0xd7ff then 0xe000 else n + 1

/-- The character before a code point. -/
def before (n : Nat) : Nat := if n = 0xe000 then 0xd7ff else n - 1

/-- Whether a code point is in the set. -/
def contains (r : Ranges) (n : Nat) : Bool := r.any fun x => x.1 ≤ n && n ≤ x.2

/-- The set with one more range, which begins at or before its first one. -/
def extend (low high : Nat) : Ranges → Ranges
  | [] => [(low, high)]
  | (a, b) :: rest =>
    if high + 1 < a then (low, high) :: (a, b) :: rest else extend low (max high b) rest

/-- The set of ranges in the order of their beginnings, which may overlap. -/
def join (ranges : List (Nat × Nat)) : Ranges := ranges.foldr (fun x r => extend x.1 x.2 r) []

/-- The set of ranges in any order. -/
def ofList (ranges : List (Nat × Nat)) : Ranges :=
  join (ranges.mergeSort fun x y => x.1 ≤ y.1)

/-- The set of a table of ranges. -/
def ofText (table : String) : Ranges := ofList ((Table.entries table).map Prod.fst)

/-- The members of either set. -/
def union (r s : Ranges) : Ranges := join (r.merge s fun x y => x.1 ≤ y.1)

/-- The members of any of several sets. -/
def unionOf (sets : List Ranges) : Ranges := ofList sets.flatten

/-- The characters from a code point on that are not in a set. -/
def complFrom (start : Nat) : Ranges → Ranges
  | [] => if start ≤ last then [(start, last)] else []
  | (a, b) :: rest =>
    if start < a then (start, before a) :: complFrom (after b) rest else complFrom (after b) rest

/-- The characters that are not in a set. -/
def compl (r : Ranges) : Ranges := complFrom 0 r

/-- The members of both sets. -/
def inter : Ranges → Ranges → Ranges
  | [], _ => []
  | _, [] => []
  | (a, b) :: r, (c, d) :: s =>
    let rest := if b < d then inter r ((c, d) :: s) else inter ((a, b) :: r) s
    if max a c ≤ min b d then (max a c, min b d) :: rest else rest
termination_by r s => r.length + s.length

/-- The members of the first set that are not in the second. -/
def diff (r s : Ranges) : Ranges := r.inter s.compl

/-- The members of exactly one of two sets. -/
def symmDiff (r s : Ranges) : Ranges := (r.union s).diff (r.inter s)

/-- Every character. -/
def all : Ranges := [(0, last)]

end Ranges

end SheetReport.Text
