import Testbed.Journal.Date
import Testbed.Journal.Record
import Testbed.Readiness.TimeScale

/-!
# The journal of a worker

The journal records what is not a failure of the tests themselves, such as leftovers that were
removed and instances that could not be started.  It has a place only once the worker has a
directory; every entry is written with its date, in UTC, and its level.
-/

namespace Testbed

set_option autoImplicit false

def Level.text : Level → String
  | debug => "DEBUG"
  | info => "INFO"
  | warning => "WARNING"
  | error => "ERROR"

/-- The text of a moment, down to its thousandth, which is cut off and not rounded. -/
def stampOf (moment : Float) : String :=
  let whole := Float.ofInt (Binary.ofFloat moment).truncate
  let thousandths := (Binary.ofFloat ((moment - whole) * 1000)).truncate
  (Date.ofSeconds (Binary.ofFloat moment).floor).text ++ "," ++ Decimal.paddedInt 3 thousandths

/-- Whether a moment lies in a year that dates are written for. -/
def hasYear (moment : Float) : Bool :=
  let year := (Date.ofSeconds (Binary.ofFloat moment).floor).year
  1900 - Int.pow 2 31 ≤ year && year < Int.pow 2 31

/-- The date of an entry.  A moment that is no number is a fault, and one that is too far away has
no date. -/
def dateOf? (moment : Float) : Except Fault (Option String) :=
  match Binary.ofFloat moment with
  | .nan => .error (Fault.of (.host .badValue "cannot convert float NaN to integer"))
  | .infinite _ =>
    .error (Fault.of (.host .outOfRange "cannot convert float infinity to integer"))
  | .finite .. => .ok (if hasYear moment then some (stampOf moment) else none)

/-- The journal of a worker, as a text. -/
structure Journal where
  text : String := ""
  deriving Inhabited

namespace Journal

/-- Adds an entry; one without a date is lost. -/
def write (j : Journal) (moment : Float) (level : Level) (entry : String) :
    Except Fault Journal := do
  match ← dateOf? moment with
  | some date => pure { text := j.text ++ date ++ " " ++ level.text ++ " " ++ entry ++ "\n" }
  | none => pure j

def failures (j : Journal) : List SetupFailure :=
  (Text.lines j.text.toList).filterMap SetupFailure.ofLine?

end Journal

/-- How a journal is reached; it is absent as long as the worker has no directory. -/
structure JournalAccess (σ : Type) where
  slot : Slot σ (Option Journal)
  date : σ → Num

namespace JournalAccess

variable {σ : Type}

def noDirectory : Fault :=
  Fault.of (.host .badState "PytestTempDirs are not initialized")

def journal (a : JournalAccess σ) : Act σ Journal := do
  match ← Act.read a.slot.get with
  | some j => pure j
  | none => Act.fail noDirectory

def write (a : JournalAccess σ) (level : Level) (entry : String) : Act σ Unit := do
  let j ← a.journal
  let now ← Act.read a.date
  let written ← Act.ofExcept (j.write now.toReal level entry)
  Act.update (a.slot.set (some written))

def record (a : JournalAccess σ) (testId service step message : String) : Act σ Unit :=
  a.write .error (SetupFailure.make testId service step message).record

def failures (a : JournalAccess σ) : Act σ (List SetupFailure) := do
  let j ← a.journal
  pure j.failures

end JournalAccess

end Testbed
