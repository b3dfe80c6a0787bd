import Testbed.Http.MailDate
import Testbed.Http.Reply

/-!
# When to come back

A server that is busy may say when to come back: in a number of seconds or at a date.
-/

namespace Testbed.Http

set_option autoImplicit false

def maxPause : Num := 21600

/-- The seconds that a text gives outright. -/
def secondsOf? (text : String) : Option (List Char) :=
  let digits := trimmed Text.isBlank text.toList
  if !digits.isEmpty && digits.all Char.isDigit then some digits else none

/-- The seconds until what a text says, at some date. -/
def pauseUntil (text : String) (now : Num) : Except Fault Num :=
  match secondsOf? text with
  | some digits =>
    if Parse.digitLimit < digits.length then
      .error (Fault.of (.host .badValue (Parse.tooLong digits.length)))
    else .ok (.int (Int.ofNat (Parse.natOf digits)))
  | none =>
    match MailDate.ofText? text with
    | none => .error (replyFault .invalidHeader s!"Invalid Retry-After header: {text}")
    | some d => do
      let seconds ← d.seconds
      inRange (Num.sub? (.int seconds) now)

/-- The pause that a reply asks for, at some date; none at all is not asked for. -/
def Reply.askedPause (r : Reply) (now : Num) : Except Fault (Option Num) :=
  match r.header? "Retry-After" with
  | none => .ok none
  | some text => do
    let pause ← pauseUntil text now
    let pause := if pause.below 0 then 0 else if Num.below maxPause pause then maxPause else pause
    pure (if pause.isZero then none else some pause)

end Testbed.Http
