import Testbed.Fault.Basic
import Testbed.Number.Parse

/-!
# Faults of numerals

A text that has to be a number and is not one is a fault that shows the text.
-/

namespace Testbed

set_option autoImplicit false

namespace Numeral

/-- The message for a text that is not a whole number; a long text is cut off. -/
def notWhole (text : String) : String :=
  let shown := String.ofList ((Literal.ofText text).toList.take 200)
  s!"invalid literal for int() with base 10: {shown}"

def badWhole (text : String) : Fault :=
  Fault.of (.host .badValue (((Parse.excess? text).map Parse.tooLong).getD (notWhole text)))

def badReal (text : String) : Fault :=
  Fault.of (.host .badValue s!"could not convert string to float: {Literal.ofText text}")

def whole (text : String) : Except Fault Int := (Parse.int? text).elim (.error (badWhole text)) .ok

def real (text : String) : Except Fault Float :=
  (Parse.float? text).elim (.error (badReal text)) .ok

end Numeral

end Testbed
