import SheetReport.Number.Decimal

/-!
# Numbers as text

Two notations. Plain text is always positional, so a large number shows all its zeros. The
notation of data files keeps a fraction on whole numbers and changes to an exponent where the
decimal point would stand more than sixteen places to the right or five to the left of the
first digit. Of two shortest decimals at the same distance, plain text takes the larger and
data files the even one.
-/

namespace SheetReport.Number

/-- The digits of a natural number. -/
def natDigits (n : Nat) : List Char := Nat.toDigits 10 n

/-- A decimal with its point in place and no exponent. -/
def Decimal.positional (d : Decimal) : List Char :=
  let digits := natDigits d.digits
  let point := digits.length + d.exponent
  if 0 ≤ d.exponent then digits ++ List.replicate d.exponent.toNat '0'
  else if 0 < point then digits.take point.toNat ++ '.' :: digits.drop point.toNat
  else '0' :: '.' :: List.replicate (-point).toNat '0' ++ digits

/-- A decimal with one digit before its point and an exponent with its sign. -/
def Decimal.scientific (d : Decimal) : List Char :=
  let digits := natDigits d.digits
  let power := digits.length + d.exponent - 1
  let exponent := (if power < 0 then '-' else '+') :: natDigits power.natAbs
  match digits with
  | first :: second :: rest => first :: '.' :: second :: rest ++ 'e' :: exponent
  | _ => digits ++ 'e' :: exponent

/-- The sign before a number. -/
def sign (negative : Bool) : List Char := if negative then ['-'] else []

/-- A number in plain text. -/
def plain (x : Double) : String :=
  match kind x with
  | .nan => "NaN"
  | .infinite negative => if negative then "-inf" else "inf"
  | .finite negative 0 _ => String.ofList (sign negative ++ ['0'])
  | .finite negative mantissa exponent =>
    String.ofList (sign negative ++ (shortest .up mantissa exponent).positional)

/-- A decimal in the notation of data files. -/
def Decimal.data (d : Decimal) : List Char :=
  let point := digitCount d.digits + d.exponent
  if 0 ≤ d.exponent ∧ point ≤ 16 then d.positional ++ ['.', '0']
  else if -5 < point ∧ point ≤ 16 then d.positional
  else d.scientific

/-- A number in the notation of data files, which has no infinities. -/
def data (x : Float) : String :=
  match kind x with
  | .nan | .infinite _ => "null"
  | .finite negative 0 _ => String.ofList (sign negative ++ ['0', '.', '0'])
  | .finite negative mantissa exponent =>
    String.ofList (sign negative ++ (shortest .even mantissa exponent).data)

/-- The bit pattern of a number in sixteen hexadecimal digits. -/
def bitsText (x : Float) : String :=
  let digits := Nat.toDigits 16 x.toBits.toNat
  String.ofList (List.replicate (16 - digits.length) '0' ++ digits)

end SheetReport.Number
