import SheetReport.Calendar.Date
import SheetReport.Number.Binary

/-!
# Serial day numbers

A sheet stores a moment as a number of days. Day 1 is 1900-01-01, and day 60 is a leap day
that 1900 did not have, so days after February 1900 are one higher than a true count from
1899-12-31. Moments are kept to the millisecond.
-/

namespace SheetReport.Calendar

/-- The day number of 1899-12-30, day 0 of serial numbers from 60 on. -/
def serialOrigin : Int := -25569

/-- The milliseconds of a day. -/
def millisecondsPerDay : Int := 86400000

/-- The moment a serial number stands for, to the nearest millisecond; none outside the
calendar. -/
def DateTime.ofSerial? (serial : Float) : Option DateTime :=
  let days := if 60 ≤ serial then serial else serial + 1
  (Number.round? (days * 86400000)).bind fun milliseconds =>
    let day := serialOrigin + Int.fdiv milliseconds millisecondsPerDay
    let rest := (Int.fmod milliseconds millisecondsPerDay).toNat
    (Date.ofDay? day).map fun date => ⟨date, rest / 1000, rest % 1000 * 1000000⟩

/-- The serial number of a count of days after 1899-12-31. -/
def serialOfDays (days : Float) : Float := if 59 < days then days + 1 else days

/-- The serial number of a date. -/
def Date.serial (d : Date) : Float := serialOfDays (Number.ofInt (d.day - (serialOrigin + 1)))

/-- The serial number of a moment: that of its date and the part of the day that has passed;
parts of a millisecond are dropped. -/
def DateTime.serial (t : DateTime) : Float :=
  let milliseconds := t.second * 1000 + t.nano / 1000000
  t.date.serial + Float.ofNat milliseconds / 86400000

end SheetReport.Calendar
