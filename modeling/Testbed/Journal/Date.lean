import Testbed.Number.Digits

/-!
# Dates

The date and the time of day of a number of seconds since the start of 1970, in UTC.
-/

namespace Testbed

set_option autoImplicit false

structure Date where
  year : Int
  month : Int
  day : Int
  hour : Int
  minute : Int
  second : Int
  deriving DecidableEq, Repr

namespace Date

/-- The year, the month and the day of a number of days since the start of 1970.  Years are
counted from March, so that the leap day is the last of its year; an era has 400 years. -/
def ofDays (days : Int) : Int × Int × Int :=
  let z := days + 719468
  let era := z / 146097
  let dayOfEra := z % 146097
  let yearOfEra := (dayOfEra - dayOfEra / 1460 + dayOfEra / 36524 - dayOfEra / 146096) / 365
  let dayOfYear := dayOfEra - (365 * yearOfEra + yearOfEra / 4 - yearOfEra / 100)
  let fromMarch := (5 * dayOfYear + 2) / 153
  let day := dayOfYear - (153 * fromMarch + 2) / 5 + 1
  let month := if fromMarch < 10 then fromMarch + 3 else fromMarch - 9
  let year := yearOfEra + era * 400
  (if month ≤ 2 then year + 1 else year, month, day)

/-- The days from the start of 1970 to a date. -/
def toDays (year month day : Int) : Int :=
  let y := if month ≤ 2 then year - 1 else year
  let fromMarch := if month ≤ 2 then month + 9 else month - 3
  let dayOfYear := (153 * fromMarch + 2) / 5 + day - 1
  let yearOfEra := y % 400
  y / 400 * 146097 + yearOfEra * 365 + yearOfEra / 4 - yearOfEra / 100 + dayOfYear - 719468

def ofSeconds (seconds : Int) : Date :=
  let (year, month, day) := ofDays (seconds / 86400)
  let rest := seconds % 86400
  { year, month, day, hour := rest / 3600, minute := rest / 60 % 60, second := rest % 60 }

/-- The text of a date, e.g. `2023-11-14 22:13:20`. -/
def text (d : Date) : String :=
  let two := Decimal.paddedInt 2
  s!"{Decimal.ofInt d.year}-{two d.month}-{two d.day} " ++
    s!"{two d.hour}:{two d.minute}:{two d.second}"

example : (ofSeconds 951782400).text = "2000-02-29 00:00:00" := by decide +kernel
example : (ofSeconds (-1)).text = "1969-12-31 23:59:59" := by decide +kernel

end Date

end Testbed
