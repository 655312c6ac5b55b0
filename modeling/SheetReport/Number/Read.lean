import SheetReport.Number.Binary
import SheetReport.Text.CharClass

/-!
# Reading numbers

Natural numbers with an upper limit, and decimal numbers with an optional point and exponent.
Nothing is trimmed here: a reader that tolerates blanks trims first.
-/

namespace SheetReport.Number

open Text (isDigitAscii)

/-- The value of decimal digits. -/
def digitsValue (digits : List Char) : Nat :=
  digits.foldl (fun n c => 10 * n + (c.toNat - 48)) 0

/-- Decimal digits, at least one, as a number below `limit`. -/
def digits? (limit : Nat) (digits : List Char) : Option Nat :=
  if digits ≠ [] ∧ digits.all isDigitAscii ∧ digitsValue digits < limit then
    some (digitsValue digits)
  else none

/-- A natural number below `limit`; a plus sign may stand before its digits. -/
def nat? (limit : Nat) : List Char → Option Nat
  | '+' :: rest => digits? limit rest
  | text => digits? limit text

/-- A sign, if there is one, and what follows it. -/
def takeSign : List Char → Bool × List Char
  | '-' :: rest => (true, rest)
  | '+' :: rest => (false, rest)
  | text => (false, text)

/-- An exponent after its mark: a signed integer and nothing else. -/
def exponent? (text : List Char) : Option Int :=
  let (negative, digits) := takeSign text
  if digits ≠ [] ∧ digits.all isDigitAscii then
    let n : Int := digitsValue digits
    some (if negative then -n else n)
  else none

/-- The number `digits * 10 ^ exponent`, rounded to nearest. Exponents far beyond the range of
numbers give an infinity or zero without computing the power. -/
def ofDecimal (digits : Nat) (exponent : Int) : Float :=
  if digits = 0 then 0
  else
    let magnitude := (Nat.toDigits 10 digits).length + exponent
    if 400 < magnitude then infinity
    else if magnitude < -400 then 0
    else if 0 ≤ exponent then Float.ofScientific digits false exponent.toNat
    else Float.ofScientific digits true (-exponent).toNat

/-- An unsigned decimal number: digits with an optional point among or beside them, at least
one digit in all, and an optional exponent. -/
def unsigned? (text : List Char) : Option Float :=
  let whole := text.takeWhile isDigitAscii
  let afterWhole := text.dropWhile isDigitAscii
  let (fraction, rest) :=
    match afterWhole with
    | '.' :: rest => (rest.takeWhile isDigitAscii, rest.dropWhile isDigitAscii)
    | rest => ([], rest)
  if whole ++ fraction = [] then none
  else
    let value (exponent : Int) :=
      ofDecimal (digitsValue (whole ++ fraction)) (exponent - fraction.length)
    match rest with
    | [] => some (value 0)
    | mark :: rest => if mark = 'e' ∨ mark = 'E' then (exponent? rest).map value else none

/-- A decimal number with an optional sign, an infinity or the value that is no number; names
of the latter are read in any case. -/
def float? (text : List Char) : Option Float :=
  let (negative, rest) := takeSign text
  let magnitude :=
    let name := String.ofList (rest.map Char.toLower)
    if name = "inf" ∨ name = "infinity" then some infinity
    else if name = "nan" then some nan
    else unsigned? rest
  magnitude.map fun x => if negative then -x else x

/-- The value of hexadecimal digits, at least one, below `limit`. -/
def hex? (limit : Nat) (digits : List Char) : Option Nat :=
  let value? (c : Char) : Option Nat :=
    if isDigitAscii c then some (c.toNat - 48)
    else if 'a' ≤ c ∧ c ≤ 'f' then some (c.toNat - 87)
    else if 'A' ≤ c ∧ c ≤ 'F' then some (c.toNat - 55)
    else none
  if digits = [] then none
  else
    (digits.mapM value?).bind fun values =>
      let n := values.foldl (fun n d => 16 * n + d) 0
      if n < limit then some n else none

/-- A hexadecimal number below `limit`; a plus sign may stand before its digits. -/
def signedHex? (limit : Nat) : List Char → Option Nat
  | '+' :: rest => hex? limit rest
  | text => hex? limit text

end SheetReport.Number
