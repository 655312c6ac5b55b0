/-!
# Binary floating-point numbers as exact numbers

A value holds a number by its bit pattern, since the type `Float` has one value only for all
patterns that are no number, while these patterns differ in sign and payload. A finite number is its
sign, a natural number and a power of two. The order of numbers used for sorting is the order of
their bit patterns read as sign and magnitude, which places the two zeros, the infinities and all
patterns that are no number.
-/

namespace SheetReport

/-- A 64-bit floating-point number, as its bit pattern. -/
@[ext] structure Double where
  bits : UInt64
deriving DecidableEq, Inhabited, Repr

namespace Double

/-- The bit pattern of a floating-point value. -/
def ofFloat (x : Float) : Double := ⟨x.toBits⟩

/-- The floating-point value of a bit pattern, with which one calculates. -/
def toFloat (x : Double) : Float := Float.ofBits x.bits

instance : Coe Float Double := ⟨ofFloat⟩

end Double

namespace Number

/-- What a 64-bit floating-point number stands for. -/
inductive Kind where
  | nan
  | infinite (negative : Bool)
  /-- The number `mantissa * 2 ^ exponent` with its sign. -/
  | finite (negative : Bool) (mantissa : Nat) (exponent : Int)
deriving DecidableEq, Repr

/-- The bit of the sign. -/
def signBit : Nat := 0x8000000000000000

/-- The bit before the fraction, which every normal number has. -/
def leadingBit : Nat := 0x10000000000000

/-- The number a bit pattern stands for. -/
def kindOfBits (bits : Nat) : Kind :=
  let negative := decide (signBit ≤ bits)
  let exponent : Nat := bits / leadingBit % 2048
  let fraction : Nat := bits % leadingBit
  if exponent = 2047 then
    if fraction = 0 then .infinite negative else .nan
  else if exponent = 0 then .finite negative fraction (-1074)
  else .finite negative (leadingBit + fraction) ((exponent : Int) - 1075)

/-- What a number is. -/
def kind (x : Double) : Kind := kindOfBits x.bits.toNat

/-- Negative zero. -/
def negativeZero : Float := Float.ofBits 0x8000000000000000

/-- Positive infinity. -/
def infinity : Float := Float.ofBits 0x7ff0000000000000

/-- Negative infinity. -/
def negativeInfinity : Float := Float.ofBits 0xfff0000000000000

/-- The value that is no number. -/
def nan : Float := Float.ofBits 0x7ff8000000000000

/-- The floating-point number nearest to an integer. -/
def ofInt (n : Int) : Float :=
  if n < 0 then -(Float.ofNat n.natAbs) else Float.ofNat n.natAbs

/-- The place of a bit pattern in the order of all patterns: negative numbers from the largest
magnitude down, then positive ones from the smallest up. -/
def rankOfBits (bits : Nat) : Nat :=
  if bits < signBit then signBit + bits else 2 * signBit - 1 - bits

/-- The place of a number in the total order. -/
def rank (x : Double) : Nat := rankOfBits x.bits.toNat

/-- Distinct bit patterns have distinct places. -/
theorem rankOfBits_injective {a b : Nat} (ha : a < 2 * signBit) (hb : b < 2 * signBit)
    (h : rankOfBits a = rankOfBits b) : a = b := by
  unfold rankOfBits at h
  split at h <;> split at h <;> simp only [signBit] at * <;> omega

/-- The magnitude rounded to an integer, a half away from zero, with its sign; none for values
that are no finite number. -/
def round? (x : Float) : Option Int :=
  match kind x with
  | .finite negative mantissa exponent =>
    let magnitude : Nat :=
      if 0 ≤ exponent then mantissa * Nat.pow 2 exponent.toNat
      else
        let unit := Nat.pow 2 (-exponent).toNat
        (2 * mantissa + unit) / (2 * unit)
    some (if negative then -magnitude else magnitude)
  | _ => none

/-- The greatest integer below or at a finite number. -/
def floor? (x : Float) : Option Int :=
  match kind x with
  | .finite negative mantissa exponent =>
    let numerator : Int := if negative then -mantissa else mantissa
    some (if 0 ≤ exponent then numerator * (Nat.pow 2 exponent.toNat : Nat)
      else Int.fdiv numerator (Nat.pow 2 (-exponent).toNat : Nat))
  | _ => none

end Number

end SheetReport
