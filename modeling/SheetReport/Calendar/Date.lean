/-!
# Dates and times of day

A date of the Gregorian calendar, extended to all years, is its day number counted from
1970-01-01, so dates compare as integers. Years run from -262143 to 262142. A date with a time
keeps seconds and nanoseconds of the day; a leap second is the second before it with a
thousand million nanoseconds or more.
-/

namespace SheetReport.Calendar

/-- A day, as the number of days after 1970-01-01. -/
structure Date where
  day : Int
deriving DecidableEq, Repr, Inhabited

/-- A day and a time on it. -/
structure DateTime where
  date : Date
  second : Nat
  nano : Nat
deriving DecidableEq, Repr, Inhabited

/-- Year, month and day of month. -/
structure Civil where
  year : Int
  month : Nat
  day : Nat
deriving DecidableEq, Repr

/-- The first year of the calendar. -/
def minYear : Int := -262143

/-- The last year of the calendar. -/
def maxYear : Int := 262142

/-- A year with a 29th of February. -/
def isLeap (year : Int) : Bool :=
  year % 4 = 0 && (year % 100 ≠ 0 || year % 400 = 0)

/-- The number of days of a month. -/
def monthLength (year : Int) : Nat → Nat
  | 2 => if isLeap year then 29 else 28
  | 4 | 6 | 9 | 11 => 30
  | _ => 31

/-- The day number of a year, month and day; years are counted from March, so that the leap
day ends its year. -/
def Civil.dayNumber (c : Civil) : Int :=
  let year := if c.month ≤ 2 then c.year - 1 else c.year
  let era := Int.fdiv year 400
  let yearOfEra := year - era * 400
  let monthFromMarch : Int := if c.month ≤ 2 then c.month + 9 else c.month - 3
  let dayOfYear := (153 * monthFromMarch + 2) / 5 + c.day - 1
  let dayOfEra := yearOfEra * 365 + yearOfEra / 4 - yearOfEra / 100 + dayOfYear
  era * 146097 + dayOfEra - 719468

/-- Year, month and day of a day number. -/
def Date.civil (d : Date) : Civil :=
  let shifted := d.day + 719468
  let era := Int.fdiv shifted 146097
  let dayOfEra := shifted - era * 146097
  let yearOfEra :=
    (dayOfEra - dayOfEra / 1460 + dayOfEra / 36524 - dayOfEra / 146096) / 365
  let dayOfYear := dayOfEra - (365 * yearOfEra + yearOfEra / 4 - yearOfEra / 100)
  let monthFromMarch := (5 * dayOfYear + 2) / 153
  let day := dayOfYear - (153 * monthFromMarch + 2) / 5 + 1
  let month := if monthFromMarch < 10 then monthFromMarch + 3 else monthFromMarch - 9
  let year := yearOfEra + era * 400
  { year := if month ≤ 2 then year + 1 else year, month := month.toNat, day := day.toNat }

/-- The date of a year, month and day, if the calendar has it. -/
def Date.ofCivil? (year : Int) (month day : Nat) : Option Date :=
  if minYear ≤ year ∧ year ≤ maxYear ∧ 1 ≤ month ∧ month ≤ 12 ∧ 1 ≤ day ∧
      day ≤ monthLength year month then
    some ⟨(Civil.mk year month day).dayNumber⟩
  else none

/-- The day number of the first day of the calendar. -/
def minDay : Int := (Civil.mk minYear 1 1).dayNumber

/-- The day number of the last day of the calendar. -/
def maxDay : Int := (Civil.mk maxYear 12 31).dayNumber

/-- The date with a day number, if it lies in the calendar. -/
def Date.ofDay? (day : Int) : Option Date :=
  if minDay ≤ day ∧ day ≤ maxDay then some ⟨day⟩ else none

/-- The time of day with hours, minutes and seconds, in seconds. -/
def secondOfDay (hour minute second : Nat) : Nat := 3600 * hour + 60 * minute + second

/-- The start of a day. -/
def Date.midnight (d : Date) : DateTime := ⟨d, 0, 0⟩

/-- Dates with times in the order of their instants. -/
def DateTime.compare (a b : DateTime) : Ordering :=
  (Ord.compare a.date.day b.date.day).then
    ((Ord.compare a.second b.second).then (Ord.compare a.nano b.nano))

end SheetReport.Calendar
