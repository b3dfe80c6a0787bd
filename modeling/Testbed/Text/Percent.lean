import Testbed.Text.Encoding
import Testbed.Value.Notation

/-!
# Percent-encoding

A byte that may not stand for itself is written as a percent sign and two hexadecimal digits.
-/

namespace Testbed.Text

set_option autoImplicit false

/-- Characters that stand for themselves everywhere: ASCII letters, digits and four marks. -/
def isUnreserved (c : Char) : Bool :=
  c.isAlphanum || c == '_' || c == '.' || c == '-' || c == '~'

/-- A byte in percent-encoding, with capital digits. -/
def percentByte (b : UInt8) : List Char := '%' :: (Literal.hex 2 b.toNat).map Char.toUpper

/-- Encodes every character outside a set of safe ones, byte by byte in UTF-8. -/
def percentChars (safe : Char → Bool) (cs : List Char) : List Char :=
  cs.flatMap fun c =>
    if c.toNat < 128 && safe c then [c]
    else (utf8Bytes (String.singleton c)).flatMap percentByte

/-- A component of a URL: only unreserved characters stand for themselves. -/
def percentComponent (s : String) : String :=
  String.ofList (percentChars isUnreserved s.toList)

/-- A value of a query: as a component, with spaces as plus signs. -/
def percentQuery (s : String) : String :=
  let one (c : Char) := if c == ' ' then ['+'] else percentChars isUnreserved [c]
  String.ofList (s.toList.flatMap one)

end Testbed.Text
