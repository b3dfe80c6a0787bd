import Testbed.Text.Cut

/-!
# Records of setup failures

A test that could not get its instance did not fail on its own.  Each such failure is one line of
the journal: a tag and four fields, set apart by bars.  Only the message may hold a bar of its
own.
-/

namespace Testbed

set_option autoImplicit false

/-- A test that could not get its instance. -/
structure SetupFailure where
  testId : String
  service : String
  step : String
  message : String
  deriving DecidableEq, Repr, Inhabited

namespace SetupFailure

def tag : String := "SETUP FAILURE"

/-- What stands between fields. -/
def bar : String := " | "

/-- A text on one line, with single spaces between its words. -/
def collapse (s : String) : String :=
  String.ofList (" ".toList.intercalate (Text.words s.toList))

/-- The failure of a start, with its message brought to one line. -/
def make (testId service step message : String) : SetupFailure :=
  { testId, service, step, message := collapse message }

def record (f : SetupFailure) : String :=
  bar.intercalate [tag, f.testId, f.service, f.step, f.message]

/-- The four fields of the rest of a line that follows the tag. -/
def ofFields? (cs : List Char) : Option SetupFailure := do
  let (testId, cs) ← Text.cutAround? bar.toList cs
  let (service, cs) ← Text.cutAround? bar.toList cs
  let (step, message) ← Text.cutAround? bar.toList cs
  pure {
    testId := String.ofList testId, service := String.ofList service
    step := String.ofList step, message := String.ofList message }

def ofLine? (line : List Char) : Option SetupFailure := do
  let (_, fields) ← Text.cutAround? (tag ++ bar).toList line
  ofFields? fields

end SetupFailure

end Testbed
