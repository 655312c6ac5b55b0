import SheetReport.Calendar.Date
import SheetReport.Number.Read

/-!
# Reading dates

Dates `year-month-day` and moments `year-month-dayThour:minute:second`, with an optional
fraction of the second. Blanks may stand before each number. A year has up to four digits, or
any number of them after a sign; the other fields have one or two. The second 60 is a leap
second.
-/

namespace SheetReport.Calendar

open Text (isDigitAscii isSpace)
open Number (digitsValue)

/-- A reader of a field: the value and the rest of the text. -/
abbrev Field (α : Type) := List Char → Option (α × List Char)

/-- One to `width` digits. -/
def digitsUpTo (width : Nat) : Field Nat := fun text =>
  let digits := (text.take width).takeWhile isDigitAscii
  if digits = [] then none else some (digitsValue digits, text.drop digits.length)

/-- Any number of digits, at least one. -/
def digitsMany : Field Nat := fun text =>
  let digits := text.takeWhile isDigitAscii
  if digits = [] then none else some (digitsValue digits, text.dropWhile isDigitAscii)

/-- A number of one or two digits, after blanks. -/
def pairField : Field Nat := fun text => digitsUpTo 2 (text.dropWhile isSpace)

/-- A year, after blanks. -/
def yearField : Field Int := fun text =>
  match text.dropWhile isSpace with
  | '-' :: rest => (digitsMany rest).map fun (n, rest) => (-(n : Int), rest)
  | '+' :: rest => (digitsMany rest).map fun (n, rest) => ((n : Int), rest)
  | text => (digitsUpTo 4 text).map fun (n, rest) => ((n : Int), rest)

/-- What follows a given character. -/
def after (c : Char) : List Char → Option (List Char)
  | [] => none
  | d :: rest => if d = c then some rest else none

/-- A date and what follows it. -/
def dateField : Field Date := fun text => do
  let (year, text) ← yearField text
  let text ← after '-' text
  let (month, text) ← pairField text
  let text ← after '-' text
  let (day, text) ← pairField text
  let date ← Date.ofCivil? year month day
  some (date, text)

/-- The nanoseconds of a fraction's digits: the first nine count. -/
def fractionNanos (digits : List Char) : Nat :=
  let first := digits.take 9
  digitsValue first * Nat.pow 10 (9 - first.length)

/-- An optional fraction of a second. -/
def fractionField : Field Nat := fun text =>
  match text with
  | '.' :: rest =>
    let digits := rest.takeWhile isDigitAscii
    if digits = [] then none else some (fractionNanos digits, rest.dropWhile isDigitAscii)
  | text => some (0, text)

/-- A time of day and what follows it: seconds and nanoseconds. -/
def timeField : Field (Nat × Nat) := fun text => do
  let (hour, text) ← pairField text
  let text ← after ':' text
  let (minute, text) ← pairField text
  let text ← after ':' text
  let (second, text) ← pairField text
  let (nano, text) ← fractionField text
  if hour < 24 ∧ minute < 60 ∧ second ≤ 60 then
    if second = 60 then some ((secondOfDay hour minute 59, 1000000000 + nano), text)
    else some ((secondOfDay hour minute second, nano), text)
  else none

/-- A whole text that is a date. -/
def Date.read? (text : String) : Option Date :=
  match dateField text.toList with
  | some (date, []) => some date
  | _ => none

/-- A whole text that is a date, a `T` and a time. -/
def DateTime.read? (text : String) : Option DateTime :=
  let parts := do
    let (date, text) ← dateField text.toList
    let text ← after 'T' text
    let (time, text) ← timeField text
    some (date, time, text)
  match parts with
  | some (date, time, []) => some ⟨date, time.1, time.2⟩
  | _ => none

end SheetReport.Calendar
