/-!
# Tables written as text

The data of the Unicode character database stands in texts of words, with code points in
hexadecimal. A table of ranges lists code points and pairs of code points with a dash.
-/

namespace SheetReport.Text.Table

/-- The value of a hexadecimal digit. -/
def digit? (c : Char) : Option Nat :=
  if '0' ≤ c ∧ c ≤ '9' then some (c.toNat - 48)
  else if 'a' ≤ c ∧ c ≤ 'f' then some (c.toNat - 87)
  else none

/-- The number that a text begins with, after the digits read so far, and what follows it. -/
def number (value : Nat) : List Char → Nat × List Char
  | [] => (value, [])
  | c :: rest =>
    match digit? c with
    | some d => number (16 * value + d) rest
    | none => (value, c :: rest)

/-- The words of a text, which blanks and line ends separate. -/
def words (text : List Char) : List (List Char) :=
  let separate (c : Char) (rest : List (List Char)) : List (List Char) :=
    if c = ' ' ∨ c = '\n' then [] :: rest
    else
      match rest with
      | [] => [[c]]
      | word :: others => (c :: word) :: others
  (text.foldr separate []).filter fun word => !word.isEmpty

/-- The range at the beginning of a word, and what follows it. -/
def range (word : List Char) : (Nat × Nat) × List Char :=
  match number 0 word with
  | (first, '-' :: rest) =>
    let (last, rest) := number 0 rest
    ((first, last), rest)
  | (first, rest) => ((first, first), rest)

/-- The entries of a table of ranges with something behind each. -/
def entries (table : String) : List ((Nat × Nat) × List Char) := (words table.toList).map range

end SheetReport.Text.Table
