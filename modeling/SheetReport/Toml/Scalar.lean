import SheetReport.Calendar.Date
import SheetReport.Toml.Text
import SheetReport.Toml.Value

/-!
# Numbers and moments in TOML

Digits may be parted by single underscores. Decimal numbers have no leading zeros. An integer
fits in 64 bits, a float stays below infinity unless infinity itself is written.
-/

namespace SheetReport.Toml

open Text (isDigitAscii)
open Number (digitsValue hex? ofDecimal takeSign)

/-- Digits of a kind, at least one, with underscores between them; the underscores are left
out. -/
def digitRun? (isDigit : Char → Bool) : List Char → Found (List Char)
  | [] => none
  | [c] => if isDigit c then some ([c], []) else none
  | c :: '_' :: rest =>
    if isDigit c then Found.cons [c] (digitRun? isDigit rest) else none
  | c :: next :: rest =>
    if isDigit c then
      if isDigit next then Found.cons [c] (digitRun? isDigit (next :: rest))
      else some ([c], next :: rest)
    else none

/-- The digits of a whole number without leading zeros. -/
def wholeDigits? : List Char → Found (List Char)
  | '0' :: rest => some (['0'], rest)
  | text => digitRun? isDigitAscii text

/-- The digits of a fraction after its point; nothing if there is no point. -/
def fraction? : List Char → Found (List Char)
  | '.' :: rest => digitRun? isDigitAscii rest
  | text => some ([], text)

/-- An exponent after its mark; zero if there is no mark. -/
def exponent? : List Char → Found Int
  | 'e' :: rest | 'E' :: rest =>
    let (negative, rest) := takeSign rest
    (digitRun? isDigitAscii rest).map fun (digits, rest) =>
      let n : Int := digitsValue digits
      (if negative then -n else n, rest)
  | text => some (0, text)

/-- Whether a text goes on like a fraction or an exponent. -/
def isFloatMark (text : List Char) : Bool :=
  match text with
  | '.' :: _ | 'e' :: _ | 'E' :: _ => true
  | _ => false

/-- The float of its parts; none if it is beyond the largest one. -/
def floatOf? (negative : Bool) (whole fraction : List Char) (exponent : Int) : Option Float :=
  let x := ofDecimal (digitsValue (whole ++ fraction)) (exponent - fraction.length)
  if negative then some (-x)
  else
    match Number.kind x with
    | .infinite _ => none
    | _ => some x

/-- An integer, if it fits in 64 bits. -/
def integer? (n : Int) : Option Value :=
  if -0x8000000000000000 ≤ n ∧ n < 0x8000000000000000 then some (.integer n) else none

/-- An integer in another base than ten, after its mark. -/
def basedInteger? (base : Nat) (isDigit : Char → Bool) (text : List Char) : Found Value :=
  (digitRun? isDigit text).bind fun (digits, rest) => do
    let values ← digits.mapM fun c => hex? 16 [c]
    let n := values.foldl (fun n d => base * n + d) 0
    some (← integer? n, rest)

/-- A decimal number after its sign. -/
def decimal? (negative : Bool) (text : List Char) : Found Value :=
  (wholeDigits? text).bind fun (whole, rest) => do
    if isFloatMark rest then
      let (fraction, rest) ← fraction? rest
      let (exponent, rest) ← exponent? rest
      some (.float (← floatOf? negative whole fraction exponent), rest)
    else
      let n : Int := digitsValue whole
      some (← integer? (if negative then -n else n), rest)

/-- A number. -/
def number? : List Char → Found Value
  | '0' :: 'x' :: rest => basedInteger? 16 (fun c => (hex? 16 [c]).isSome) rest
  | '0' :: 'o' :: rest => basedInteger? 8 (fun c => '0' ≤ c && c ≤ '7') rest
  | '0' :: 'b' :: rest => basedInteger? 2 (fun c => c == '0' || c == '1') rest
  | text =>
    match takeSign text with
    | (negative, 'i' :: 'n' :: 'f' :: rest) =>
      some (.float (if negative then Number.negativeInfinity else Number.infinity), rest)
    | (_, 'n' :: 'a' :: 'n' :: rest) => some (.float Number.nan, rest)
    | (negative, rest) => decimal? negative rest

/-- A number of a fixed count of digits. -/
def fixed? (count : Nat) (text : List Char) : Found Nat :=
  let digits := text.take count
  if digits.length = count ∧ digits.all isDigitAscii then
    some (digitsValue digits, text.drop count)
  else none

/-- A number of two digits up to a limit. -/
def pair? (limit : Nat) (text : List Char) : Found Nat := (fixed? 2 text).filter (·.1 ≤ limit)

/-- What follows a character. -/
def after? (c : Char) : List Char → Option (List Char)
  | [] => none
  | d :: rest => if d = c then some rest else none

/-- What follows a date. -/
def afterDate? (text : List Char) : Option (List Char) := do
  let (year, rest) ← fixed? 4 text
  let (month, rest) ← fixed? 2 (← after? '-' rest)
  let (day, rest) ← fixed? 2 (← after? '-' rest)
  let _ ← Calendar.Date.ofCivil? year month day
  some rest

/-- What follows a fraction of a second, if there is one. -/
def afterSecond? : List Char → Option (List Char)
  | '.' :: rest =>
    let tail := rest.dropWhile isDigitAscii
    if tail.length < rest.length then some tail else none
  | text => some text

/-- What follows a time of day. -/
def afterTime? (text : List Char) : Option (List Char) := do
  let (_, rest) ← pair? 23 text
  let (_, rest) ← pair? 59 (← after? ':' rest)
  let (_, rest) ← pair? 60 (← after? ':' rest)
  afterSecond? rest

/-- What follows an offset from universal time, if there is one. -/
def afterOffset? : List Char → Option (List Char)
  | 'Z' :: rest | 'z' :: rest => some rest
  | '+' :: rest | '-' :: rest => do
    let (_, rest) ← pair? 23 rest
    let (_, rest) ← pair? 59 (← after? ':' rest)
    some rest
  | text => some text

/-- What follows the time after a date. A blank may stand for the mark between them, and where
no time follows it belongs to the rest. -/
def afterDatedTime? : List Char → Option (List Char)
  | 'T' :: rest | 't' :: rest => (afterTime? rest).bind afterOffset?
  | ' ' :: rest =>
    match afterTime? rest with
    | some rest => afterOffset? rest
    | none => some (' ' :: rest)
  | text => some text

/-- What follows a moment: a date, a time, or both. -/
def afterMoment? (text : List Char) : Option (List Char) :=
  match afterDate? text with
  | some rest => afterDatedTime? rest
  | none => afterTime? text

/-- A moment or a number. -/
def quantity? (text : List Char) : Found Value :=
  match afterMoment? text with
  | some rest => some (.moment, rest)
  | none => number? text

/-- A truth value. -/
def bool? : List Char → Found Value
  | 't' :: 'r' :: 'u' :: 'e' :: rest => some (.bool true, rest)
  | 'f' :: 'a' :: 'l' :: 's' :: 'e' :: rest => some (.bool false, rest)
  | _ => none

end SheetReport.Toml
