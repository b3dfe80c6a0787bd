import Testbed.Journal.Date
import Testbed.Number.Parse
import Testbed.Readiness.TimeScale
import Testbed.Text.Cut
import Testbed.Text.Lowercase
import Testbed.Text.Uppercase

/-!
# Dates in headers

A date in a header has a day, the name of a month, a year, a time of day and a time zone.  The day
of the week may stand in front, the year and the time may change places, and so may the day and the
month.
-/

namespace Testbed.Http

set_option autoImplicit false

/-- A date as it is written: nothing is said about the ranges of its numbers. -/
structure MailDate where
  year : Int
  month : Nat
  day : Int
  hour : Int
  minute : Int
  second : Int
  /-- How far the time zone is ahead, in seconds. -/
  ahead : Int
  deriving DecidableEq, Repr

namespace MailDate

def monthNames : List String :=
  ["jan", "feb", "mar", "apr", "may", "jun", "jul", "aug", "sep", "oct", "nov", "dec", "january",
   "february", "march", "april", "may", "june", "july", "august", "september", "october",
   "november", "december"]

def dayNames : List String := ["mon", "tue", "wed", "thu", "fri", "sat", "sun"]

/-- Named time zones, in hundreds of hours. -/
def zones : List (String × Int) :=
  [("UT", 0), ("UTC", 0), ("GMT", 0), ("Z", 0), ("AST", -400), ("ADT", -300), ("EST", -500),
   ("EDT", -400), ("CST", -600), ("CDT", -500), ("MST", -700), ("MDT", -600), ("PST", -800),
   ("PDT", -700)]

def lowered (cs : List Char) : String := Text.lower (String.ofList cs)

def month? (cs : List Char) : Option Nat :=
  (monthNames.findIdx? (· == lowered cs)).map fun i => i % 12 + 1

def withoutComma (cs : List Char) : List Char :=
  if cs.getLast? == some ',' then cs.dropLast else cs

/-- Leaves the day of the week out, which may be joined with what follows by a comma. -/
def withoutDayName : List (List Char) → List (List Char)
  | [] => []
  | w :: rest =>
    if w.getLast? == some ',' || dayNames.contains (lowered w) then rest
    else (Text.cutLast ',' w).2 :: rest

def withoutHyphens (ws : List (List Char)) : List (List Char) :=
  match ws with
  | [date, time, zone] =>
    match Text.cutFirst '-' date with
    | (day, some rest) =>
      match Text.cutFirst '-' rest with
      | (month, some year) => if year.contains '-' then ws else [day, month, year, time, zone]
      | _ => ws
    | _ => ws
  | _ => ws

def withZone (ws : List (List Char)) : List (List Char) :=
  match ws with
  | [day, month, year, time] =>
    let mark := if time.contains '+' then '+' else '-'
    match Text.cutFirst mark time with
    | (clock, some zone) =>
      if clock.isEmpty then ws ++ [[]] else [day, month, year, clock, mark :: zone]
    | (_, none) => ws ++ [[]]
  | _ => ws

def number? (cs : List Char) : Option Int := Parse.int? (String.ofList cs)

/-- Splits a time of day at colons, or at points if there are none. -/
def timeParts (cs : List Char) : List (List Char) :=
  let split (mark : Char) := cs.foldr (fun c parts =>
    if c == mark then [] :: parts
    else match parts with
      | [] => [[c]]
      | p :: ps => (c :: p) :: ps) [[]]
  match split ':' with
  | [_] => if cs.contains '.' then split '.' else []
  | parts => parts

def time? (cs : List Char) : Option (Int × Int × Int) :=
  match timeParts cs with
  | [h, m] => do pure (← number? h, ← number? m, 0)
  | [h, m, s] => do pure (← number? h, ← number? m, ← number? s)
  | _ => none

def aheadOf (zone : List Char) : Int :=
  let name := Text.upper (String.ofList zone)
  let n := (zones.lookup name).getD ((Parse.int? name).getD 0)
  let size := Int.ofNat n.natAbs
  n.sign * (size / 100 * 3600 + size % 100 * 60)

/-- Years of two digits lie between 1969 and 2068. -/
def fullYear (y : Int) : Int := if y < 100 then (if 68 < y then y + 1900 else y + 2000) else y

def startsWithDigit (cs : List Char) : Bool := cs.head?.any Text.isDigitSign

def ofWords? (day month year time zone : List Char) : Option MailDate := do
  guard (!day.isEmpty && !month.isEmpty && !year.isEmpty)
  let (day, number) ← match month? month with
    | some n => pure (day, n)
    | none => (month? day).map fun n => (month, n)
  let day := withoutComma day
  let (year, time) :=
    if year.head? != some ':' && year.contains ':' then (time, year) else (year, time)
  let year := withoutComma year
  guard (!year.isEmpty)
  let (year, zone) := if startsWithDigit year then (year, zone) else (zone, year)
  let time := withoutComma time
  let (hour, minute, second) ← time? time
  let year ← number? year
  let day ← number? day
  pure { year := fullYear year, month := number, day, hour, minute, second, ahead := aheadOf zone }

def ofText? (s : String) : Option MailDate :=
  match withZone (withoutHyphens (withoutDayName (Text.words s.toList))) with
  | day :: month :: year :: time :: zone :: _ => ofWords? day month year time zone
  | _ => none

/-- The seconds from the start of 1970 to a date. -/
def seconds (d : MailDate) : Except Fault Int :=
  if Int.pow 2 63 ≤ d.year then
    .error (Fault.of (.host .outOfRange "Python int too large to convert to C long"))
  else if Int.pow 2 31 ≤ d.year then
    .error (Fault.of (.host .outOfRange "signed integer is greater than maximum"))
  else if d.year < 1 || 9999 < d.year then
    .error (Fault.of (.host .badValue s!"year {Decimal.ofInt d.year} is out of range"))
  else
    let days := Date.toDays d.year (Int.ofNat d.month) 1 + d.day - 1
    .ok (((days * 24 + d.hour) * 60 + d.minute) * 60 + d.second - d.ahead)

end MailDate

end Testbed.Http
