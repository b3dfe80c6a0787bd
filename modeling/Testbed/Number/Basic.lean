import Testbed.Number.Binary

/-!
# Numbers with a kind

Settings, timeouts and status codes are whole numbers of any size or doubles, and the two kinds
stay apart: a sum of whole numbers is whole, and anything that meets a double becomes a double.
Comparison is exact across the kinds.
-/

namespace Testbed

set_option autoImplicit false

inductive Num where
  | int (value : Int)
  | real (value : Float)
  deriving Inhabited

namespace Num

instance (n : Nat) : OfNat Num n := ⟨.int (Int.ofNat n)⟩

/-- The double nearest to a number; a whole number beyond the range of doubles has none. -/
def toReal? : Num → Option Float
  | .real x => some x
  | .int i =>
    let x := Float.ofInt i
    if x.isInf then none else some x

/-- The double nearest to a number, an infinity beyond the range. -/
def toReal : Num → Float
  | .real x => x
  | .int i => Float.ofInt i

/-- Exact order of two numbers; nothing is said about a NaN. -/
def compare? : Num → Num → Option Ordering
  | .int a, .int b => some (compare a b)
  | .int a, .real y => Binary.compareInt a (Binary.ofFloat y)
  | .real x, .int b => (Binary.compareInt b (Binary.ofFloat x)).map Ordering.swap
  | .real x, .real y =>
    if x < y then some .lt else if y < x then some .gt else if x == y then some .eq else none

def below (a b : Num) : Bool := compare? a b == some .lt

def atMost (a b : Num) : Bool :=
  match compare? a b with
  | some .lt | some .eq => true
  | _ => false

/-- Numerically equal, whatever the kinds; a NaN equals nothing. -/
def same (a b : Num) : Bool := compare? a b == some .eq

/-- The first number, unless the second is below it. -/
def least (a b : Num) : Num := if below b a then b else a

/-- Applies an operation of whole numbers or its double counterpart.  A whole number that has to
become a double must be in range. -/
def combine? (whole : Int → Int → Int) (real : Float → Float → Float) : Num → Num → Option Num
  | .int a, .int b => some (.int (whole a b))
  | a, b => do
    let x ← a.toReal?
    let y ← b.toReal?
    pure (.real (real x y))

def add? : Num → Num → Option Num := combine? (· + ·) (· + ·)

def sub? : Num → Num → Option Num := combine? (· - ·) (· - ·)

def mul? : Num → Num → Option Num := combine? (· * ·) (· * ·)

def atLeastZero (a : Num) : Num := if below a (.real 0.0) then .real 0.0 else a

def isZero (a : Num) : Bool := same a (.int 0)

end Num

end Testbed
