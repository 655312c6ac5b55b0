import SheetReport.Number.Binary

/-!
# Shortest decimals

Every finite number is printed with the fewest decimal digits that read back as the same
number; of several decimals with that many digits the nearest one is taken, and a notation says
which of two at the same distance. Digits are tested exactly, in natural numbers: for each
count of digits the two neighbours of the number on that decimal grid are compared with the
interval of reals that round to it.
-/

namespace SheetReport.Number

/-- The decimal `digits * 10 ^ exponent`. -/
structure Decimal where
  digits : Nat
  exponent : Int
deriving DecidableEq, Repr

/-- Which of two decimals at the same distance is taken. -/
inductive Tie where
  /-- The larger one. -/
  | up
  /-- The one whose last digit is even. -/
  | even
deriving DecidableEq, Repr

/-- Whether the lower of two neighbours is taken, for a number that lies `rest` above the lower
one, `lower` times the distance `unit` of the two. -/
def Tie.takesLower (tie : Tie) (lower rest unit : Nat) : Bool :=
  match tie with
  | .up => 2 * rest < unit
  | .even => 2 * rest < unit || (2 * rest == unit && lower % 2 == 0)

/-- The least `k` from `k₀` on with `10 ^ k * numerator ≥ denominator`, within `fuel` steps. -/
def scaleUp (numerator denominator : Nat) : Nat → Nat → Nat
  | 0, k => k
  | fuel + 1, k =>
    if denominator ≤ numerator * Nat.pow 10 k then k else scaleUp numerator denominator fuel (k + 1)

/-- The number of decimal digits of a natural number. -/
def digitCount (n : Nat) : Nat := (Nat.toDigits 10 n).length

/-- The exponent of the first decimal digit of `numerator / denominator`. -/
def leadingExponent (numerator denominator : Nat) : Int :=
  if denominator ≤ numerator then (digitCount (numerator / denominator) : Int) - 1
  else -(scaleUp numerator denominator 400 1 : Int)

/-- A positive number, scaled so that it and the ends of its rounding interval are integers
over one denominator. -/
structure Scaled where
  value : Nat
  low : Nat
  high : Nat
  denominator : Nat
  /-- Whether the ends of the interval round to the number itself. -/
  closed : Bool

/-- The number `mantissa * 2 ^ exponent` with the interval of reals that round to it. -/
def Scaled.ofBinary (mantissa : Nat) (exponent : Int) : Scaled :=
  let unit := exponent - 2
  let up := Nat.pow 2 unit.toNat
  let lowGap := if mantissa = leadingBit ∧ -1074 < exponent then 1 else 2
  { value := 4 * mantissa * up
    low := (4 * mantissa - lowGap) * up
    high := (4 * mantissa + 2) * up
    denominator := Nat.pow 2 (-unit).toNat
    closed := mantissa % 2 = 0 }

/-- Whether a decimal with this exponent lies in the interval. -/
def Scaled.accepts (s : Scaled) (d : Decimal) : Bool :=
  let scaled := d.digits * s.denominator * Nat.pow 10 d.exponent.toNat
  let down := Nat.pow 10 (-d.exponent).toNat
  if s.closed then s.low * down ≤ scaled && scaled ≤ s.high * down
  else s.low * down < scaled && scaled < s.high * down

/-- The better of the two neighbours of the number on the grid of `10 ^ exponent`, if one of
them reads back. -/
def Scaled.neighbour? (tie : Tie) (s : Scaled) (exponent : Int) : Option Decimal :=
  let numerator := s.value * Nat.pow 10 (-exponent).toNat
  let denominator := s.denominator * Nat.pow 10 exponent.toNat
  let lower := numerator / denominator
  let below : Decimal := ⟨lower, exponent⟩
  let above : Decimal := ⟨lower + 1, exponent⟩
  match s.accepts below, s.accepts above with
  | true, true =>
    some (if tie.takesLower lower (numerator % denominator) denominator then below else above)
  | true, false => some below
  | false, true => some above
  | false, false => none

/-- The first count of digits, from `count` on, that has a neighbour which reads back. -/
def Scaled.search (tie : Tie) (s : Scaled) (leading : Int) : Nat → Nat → Decimal
  | 0, _ => ⟨s.value / s.denominator, 0⟩
  | fuel + 1, count =>
    (s.neighbour? tie (leading - count + 1)).getD (s.search tie leading fuel (count + 1))

/-- The same decimal without zeros at its end. -/
def Decimal.strip : Nat → Decimal → Decimal
  | 0, d => d
  | fuel + 1, d =>
    if d.digits % 10 = 0 ∧ d.digits ≠ 0 then Decimal.strip fuel ⟨d.digits / 10, d.exponent + 1⟩
    else d

/-- The shortest decimal of the positive number `mantissa * 2 ^ exponent`. -/
def shortest (tie : Tie) (mantissa : Nat) (exponent : Int) : Decimal :=
  let s := Scaled.ofBinary mantissa exponent
  (s.search tie (leadingExponent s.value s.denominator) 17 1).strip 400

end SheetReport.Number
