import Testbed.Number.Basic
import Testbed.Text.Classes

/-!
# Reading numbers from settings and labels

Surrounding white space is ignored, digits may be decimal digits of any script, and a single
underscore may stand between two digits.  A real number also has a point, an exponent, or one of
the names of the special values.
-/

namespace Testbed

set_option autoImplicit false

namespace Parse

/-- The spaces that may surround a number, once other blanks have become plain spaces. -/
def isPadding (c : Char) : Bool :=
  c == ' ' || ('\t' ≤ c && c ≤ '\r')

/-- Brings digits of every script to `0` to `9` and blanks beyond ASCII to a space. -/
def plain (c : Char) : Char :=
  if c.toNat < 128 then c
  else if Text.isBlank c then ' '
  else match Text.digitValue? c with
    | some d => Char.ofNat ('0'.toNat + d)
    | none => '?'

def trim (cs : List Char) : List Char :=
  ((cs.dropWhile isPadding).reverse.dropWhile isPadding).reverse

/-- Removes underscores that stand between two digits; any other underscore is an error. -/
def dropUnderscores? : List Char → Option (List Char)
  | [] => some []
  | '_' :: _ => none
  | [c] => some [c]
  | c :: '_' :: d :: rest =>
    if c.isDigit && d.isDigit then (dropUnderscores? (d :: rest)).map (c :: ·) else none
  | c :: rest => (dropUnderscores? rest).map (c :: ·)

def prepare? (text : String) : Option (List Char) :=
  dropUnderscores? (trim (text.toList.map plain))

def sign : List Char → Bool × List Char
  | '-' :: rest => (true, rest)
  | '+' :: rest => (false, rest)
  | cs => (false, cs)

def natOf (cs : List Char) : Nat :=
  cs.foldl (fun n c => 10 * n + (c.toNat - '0'.toNat)) 0

def digitLimit : Nat := 4300

def tooLong (digits : Nat) : String :=
  s!"Exceeds the limit ({digitLimit} digits) for integer string conversion: value has " ++
    s!"{digits} digits; use sys.set_int_max_str_digits() to increase the limit"

/-- The number of digits of the numeral at the front of a text.  A numeral does not end with an
underscore, nor start with one; `opened` says that a digit has to follow. -/
def numeralLength? : Bool → List Char → Option Nat
  | opened, [] => if opened then none else some 0
  | opened, c :: rest =>
    if c.isDigit then (numeralLength? false rest).map (· + 1)
    else if opened then none
    else if c == '_' then numeralLength? true rest
    else some 0

/-- The number of digits of the numeral that a text starts with, when it has too many. -/
def excess? (text : String) : Option Nat :=
  let (_, body) := sign ((text.toList.map plain).dropWhile isPadding)
  (numeralLength? true body).filter (digitLimit < ·)

def int? (text : String) : Option Int := do
  let cs ← prepare? text
  let (negative, ds) := sign cs
  guard (!ds.isEmpty && ds.length ≤ digitLimit && ds.all Char.isDigit)
  let n := Int.ofNat (natOf ds)
  pure (if negative then -n else n)

/-- `m · 10 ^ e` as the nearest double.  Exponents far outside the range of doubles are decided
by the number of digits alone. -/
def scale (m : Nat) (e : Int) : Float :=
  let size := e + Int.ofNat (Nat.toDigits 10 m).length
  if m == 0 then 0.0
  else if size > 400 then Float.ofBits 0x7FF0000000000000
  else if size < -400 then 0.0
  else match e with
    | .ofNat k => Float.ofScientific m false k
    | .negSucc k => Float.ofScientific m true (k + 1)

/-- The exponent part: nothing, or a marked whole number. -/
def exponent? : List Char → Option Int
  | [] => some 0
  | c :: rest =>
    if c == 'e' || c == 'E' then
      let (negative, ds) := sign rest
      if !ds.isEmpty && ds.all Char.isDigit then
        let n := Int.ofNat (natOf ds)
        some (if negative then -n else n)
      else none
    else none

/-- A decimal numeral without a sign: digits, an optional point, an optional exponent. -/
def magnitude? (cs : List Char) : Option Float := do
  let whole := cs.takeWhile Char.isDigit
  let rest := cs.dropWhile Char.isDigit
  let (fraction, tail) := match rest with
    | '.' :: r => (r.takeWhile Char.isDigit, r.dropWhile Char.isDigit)
    | r => ([], r)
  guard (!(whole ++ fraction).isEmpty)
  let e ← exponent? tail
  pure (scale (natOf (whole ++ fraction)) (e - Int.ofNat fraction.length))

def infinity : Float := Float.ofBits 0x7FF0000000000000

def notANumber : Float := Float.ofBits 0x7FF8000000000000

/-- A real number, or the name of an infinity or of NaN in any case. -/
def float? (text : String) : Option Float := do
  let cs ← prepare? text
  let (negative, body) := sign cs
  let signed (x : Float) := if negative then -x else x
  match String.ofList (body.map Char.toLower) with
  | "inf" | "infinity" => pure (signed infinity)
  | "nan" => pure (signed notANumber)
  | _ => (magnitude? body).map signed

end Parse

end Testbed
