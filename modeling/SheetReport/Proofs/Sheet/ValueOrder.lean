import SheetReport.Sheet.Value

/-!
# The order of values is a total preorder

Values of two kinds are compared by kind alone, and values of one kind by what they hold. So
the order is lexicographic: the place of the kind first, then the number, truth value, instant
or text, of which a value has at most one that tells it from others of its kind. A date is an
instant too, and comes with the moments.

Nothing is assumed of numbers: those that are no number have their places as well.
-/

open Std

namespace SheetReport

namespace Calendar

instance : Ord DateTime := ⟨DateTime.compare⟩

/-- Moments are compared by day, then by second, then by nanosecond. -/
theorem DateTime.compare_eq_lex :
    DateTime.compare = compareLex (compareOn fun t => t.date.day)
      (compareLex (compareOn DateTime.second) (compareOn DateTime.nano)) := rfl

instance : TransOrd DateTime := by
  change TransCmp DateTime.compare
  rw [DateTime.compare_eq_lex]
  infer_instance

end Calendar

namespace Value

open Calendar (DateTime)

/-- The place of a number among the numbers; the same for all other values. -/
def numberRank : Value → Nat
  | .number x => Number.rank x
  | _ => 0

/-- The truth value; the same for all other values. -/
def truth : Value → Bool
  | .bool b => b
  | _ => false

/-- The instant of a date or a moment; the same for all other values. -/
def instant : Value → DateTime
  | .date d => d.midnight
  | .dateTime t => t
  | _ => default

/-- The text of a text or a formula; the same for all other values. -/
def wording : Value → String
  | .text s | .formula s => s
  | _ => ""

/-- The order of values of one kind. -/
def contentOrder : Value → Value → Ordering :=
  compareLex (compareOn numberRank) (compareLex (compareOn truth)
    (compareLex (compareOn instant) (compareOn wording)))

/-- Values are compared by kind, then by what they hold. -/
theorem compare_eq_lex : Value.compare = compareLex (compareOn kindRank) contentOrder := by
  funext a b
  have hinstant (t t' : DateTime) : t.compare t' = Ord.compare t t' := rfl
  cases a <;> cases b <;>
    simp [compare, contentOrder, compareLex, compareOn, kindRank, numberRank, truth, instant,
      wording, hinstant, Nat.compare_eq_ite_lt]

instance : Ord Value := ⟨Value.compare⟩

instance : TransOrd Value := by
  change TransCmp Value.compare
  rw [compare_eq_lex, contentOrder]
  infer_instance

end Value

end SheetReport
