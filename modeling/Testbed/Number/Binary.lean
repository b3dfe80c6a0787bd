/-!
# Binary floating point, seen exactly

A double is a sign, a whole significand and a power of two, or one of the special values.  All
exact questions about doubles (comparison with whole numbers, decimal digits, rounding to fixed
places) are asked of this form.
-/

namespace Testbed

set_option autoImplicit false

/-- What a double stands for: `finite negative m q` is `± m · 2 ^ q`. -/
inductive Binary where
  | nan
  | infinite (negative : Bool)
  | finite (negative : Bool) (significand : Nat) (exponent : Int)
  deriving Repr, DecidableEq

namespace Binary

/-- Reads the sign, the eleven exponent bits and the fifty-two fraction bits. -/
def ofFloat (x : Float) : Binary :=
  let bits := x.toBits.toNat
  let negative := bits / Nat.pow 2 63 % 2 == 1
  let biased := bits / Nat.pow 2 52 % Nat.pow 2 11
  let fraction := bits % Nat.pow 2 52
  if biased == 2047 then
    if fraction == 0 then .infinite negative else .nan
  else if biased == 0 then .finite negative fraction (-1074)
  else .finite negative (Nat.pow 2 52 + fraction) (Int.ofNat biased - 1075)

/-- The numerator and denominator of `m · 2 ^ q`. -/
def ratio (m : Nat) (q : Int) : Nat × Nat :=
  match q with
  | .ofNat k => (m * Nat.pow 2 k, 1)
  | .negSucc k => (m, Nat.pow 2 (k + 1))

/-- Compares a whole number with a double, exactly; a NaN is comparable to nothing. -/
def compareInt (i : Int) (b : Binary) : Option Ordering :=
  match b with
  | .nan => none
  | .infinite true => some .gt
  | .infinite false => some .lt
  | .finite negative m q =>
    let (num, den) := ratio m q
    let signed : Int := if negative then -(Int.ofNat num) else Int.ofNat num
    some (compare (i * Int.ofNat den) signed)

/-- Whether the value is finite and without a fraction; then the whole number. -/
def whole? (b : Binary) : Option Int :=
  match b with
  | .finite negative m q =>
    let (num, den) := ratio m q
    if num % den == 0 then
      some (if negative then -(Int.ofNat (num / den)) else Int.ofNat (num / den))
    else none
  | _ => none

/-- The greatest whole number that is not above the value; zero for the special values. -/
def floor (b : Binary) : Int :=
  match b with
  | .finite negative m q =>
    let (num, den) := ratio m q
    (if negative then -(Int.ofNat num) else Int.ofNat num) / Int.ofNat den
  | _ => 0

/-- The whole part of the value, toward zero; zero for the special values. -/
def truncate (b : Binary) : Int :=
  match b with
  | .finite negative m q =>
    let (num, den) := ratio m q
    if negative then -(Int.ofNat (num / den)) else Int.ofNat (num / den)
  | _ => 0

end Binary

end Testbed
