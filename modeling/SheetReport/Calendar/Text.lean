import SheetReport.Calendar.Date

/-!
# Dates as text

Years have at least four digits; a year outside 0 to 9999 carries its sign.
-/

namespace SheetReport.Calendar

/-- A natural number with zeros before it up to a width. -/
def padded (width n : Nat) : List Char :=
  let digits := Nat.toDigits 10 n
  List.replicate (width - digits.length) '0' ++ digits

/-- A year. -/
def yearText (year : Int) : List Char :=
  if 0 ≤ year ∧ year ≤ 9999 then padded 4 year.toNat
  else (if year < 0 then '-' else '+') :: padded 4 year.natAbs

/-- A date as year, month and day. -/
def Date.chars (d : Date) : List Char :=
  let c := d.civil
  yearText c.year ++ '-' :: padded 2 c.month ++ '-' :: padded 2 c.day

/-- The second of the minute; a leap second is the sixtieth. -/
def DateTime.secondOfMinute (t : DateTime) : Nat :=
  t.second % 60 + if 1000000000 ≤ t.nano then 1 else 0

/-- Hours, minutes and seconds. -/
def DateTime.timeChars (t : DateTime) : List Char :=
  padded 2 (t.second / 3600) ++ ':' :: padded 2 (t.second / 60 % 60) ++
    ':' :: padded 2 t.secondOfMinute

/-- A date. -/
def Date.text (d : Date) : String := String.ofList d.chars

/-- A date and a time to the second. -/
def DateTime.text (t : DateTime) : String :=
  String.ofList (t.date.chars ++ ' ' :: t.timeChars)

/-- A date and a time with nine decimals of the second, left out when they are zero. -/
def DateTime.isoText (t : DateTime) : String :=
  let nano := t.nano % 1000000000
  let fraction := if nano = 0 then [] else '.' :: padded 9 nano
  String.ofList (t.date.chars ++ 'T' :: t.timeChars ++ fraction)

end SheetReport.Calendar
