import Testbed.Number.Basic

/-!
# Decimal text of numbers

A double is written with the fewest significant digits that read back as the same double; of two
such candidates the nearer one is taken, and a tie goes to the even digit.  The search is exact:
at each number of digits it tries the two neighbours of the value on that decimal grid.  Fixed
places are rounded from the exact value, ties to even.
-/

namespace Testbed

set_option autoImplicit false

namespace Decimal

/-- `num / den` rounded to the nearest whole number, a half to the even neighbour. -/
def roundDiv (num den : Nat) : Nat :=
  let q := num / den
  let r := num % den
  if 2 * r < den then q
  else if 2 * r > den then q + 1
  else if q % 2 == 0 then q else q + 1

def digits (n : Nat) : List Char := Nat.toDigits 10 n

/-- The text of a natural number, padded with zeros to a width. -/
def padded (width n : Nat) : String :=
  let ds := digits n
  String.ofList (List.replicate (width - ds.length) '0' ++ ds)

def ofInt (i : Int) : String :=
  match i with
  | .ofNat n => String.ofList (digits n)
  | .negSucc n => String.ofList ('-' :: digits (n + 1))

/-- A whole number padded with zeros to a width that counts the sign. -/
def paddedInt (width : Nat) (i : Int) : String :=
  match i with
  | .ofNat n => padded width n
  | .negSucc n => "-" ++ padded (width - 1) (n + 1)

/-- The reals that read back as one double, as fractions over a common denominator.  The ends
belong to the interval exactly when the significand is even. -/
structure Interval where
  low : Nat
  value : Nat
  high : Nat
  den : Nat
  closed : Bool

/-- The interval of the double `m · 2 ^ q`: half a unit to each side, a quarter below a power of
two that has a finer grid beneath it. -/
def Interval.ofBinary (m : Nat) (q : Int) : Interval :=
  let narrow := m == Nat.pow 2 52 && q > -1074
  let (num, den) := Binary.ratio 1 q
  { low := (4 * m - (if narrow then 1 else 2)) * num
    value := 4 * m * num
    high := (4 * m + 2) * num
    den := 4 * den
    closed := m % 2 == 0 }

/-- Whether `d · 10 ^ e` lies in the interval. -/
def Interval.holds (i : Interval) (d : Nat) (e : Int) : Bool :=
  let (left, scale) := match e with
    | .ofNat k => (d * Nat.pow 10 k * i.den, 1)
    | .negSucc k => (d * i.den, Nat.pow 10 (k + 1))
  if i.closed then i.low * scale ≤ left && left ≤ i.high * scale
  else i.low * scale < left && left < i.high * scale

/-- The least power of ten above `num / den`, searched from a starting guess. -/
def magnitude (num den : Nat) : Int :=
  if num ≥ den then Int.ofNat (digits (num / den)).length
  else
    let k := (digits (den / num)).length
    -- `10 ^ (k - 1) ≤ den / num < 10 ^ k`, so the power is `1 - k` or one more
    if num * Nat.pow 10 (k - 1) ≥ den then 2 - Int.ofNat k else 1 - Int.ofNat k

/-- The shortest candidate with at most `tries` more digits than `count`. -/
def shortestFrom (i : Interval) (k : Int) : Nat → Nat → Nat × Int
  | 0, count =>
    let e := k - Int.ofNat count
    (i.value / i.den, e)
  | tries + 1, count =>
    let e := k - Int.ofNat count
    let (num, den) := match e with
      | .ofNat p => (i.value, i.den * Nat.pow 10 p)
      | .negSucc p => (i.value * Nat.pow 10 (p + 1), i.den)
    let below := num / den
    let nearest := roundDiv num den
    let other := if nearest == below then below + 1 else below
    if i.holds nearest e then (nearest, e)
    else if i.holds other e then (other, e)
    else shortestFrom i k tries (count + 1)

/-- The fewest digits `d` and their exponent `e` such that `d · 10 ^ e` reads back as the double
`m · 2 ^ q`, which is not zero. -/
def shortest (m : Nat) (q : Int) : Nat × Int :=
  let i := Interval.ofBinary m q
  shortestFrom i (magnitude i.value i.den) 17 1

def dropZeros (ds : List Char) : List Char := (ds.reverse.dropWhile (· == '0')).reverse

/-- Where positional notation gives way to an exponent, and how the exponent is written. -/
structure Layout where
  /-- The largest power of ten below which digits are written out. -/
  positionalBelow : Int
  /-- The smallest leading power of ten that is written out. -/
  positionalFrom : Int
  /-- The least number of digits of an exponent. -/
  exponentWidth : Nat

/-- Digits are written out from `0.0001` up to sixteen places before the point, and an exponent
has at least two digits. -/
def Layout.standard : Layout := ⟨16, -4, 2⟩

/-- Writes the digits `ds` with the decimal exponent `k` of the first digit. -/
def Layout.render (l : Layout) (ds : List Char) (k : Int) : String :=
  if l.positionalFrom ≤ k ∧ k < l.positionalBelow then
    match k with
    | .ofNat p =>
      let whole := ds.take (p + 1)
      let whole := whole ++ List.replicate (p + 1 - whole.length) '0'
      let rest := ds.drop (p + 1)
      String.ofList (whole ++ '.' :: (if rest.isEmpty then ['0'] else rest))
    | .negSucc p => String.ofList ("0.".toList ++ List.replicate p '0' ++ ds)
  else
    let lead := ds.take 1
    let rest := ds.drop 1
    let mantissa := if rest.isEmpty then lead else lead ++ '.' :: rest
    let sign := if k < 0 then "-" else "+"
    String.ofList mantissa ++ "e" ++ sign ++ padded l.exponentWidth k.natAbs

/-- The shortest text of a double that reads back as the same double. -/
def ofFloat (x : Float) : String :=
  match Binary.ofFloat x with
  | .nan => "nan"
  | .infinite true => "-inf"
  | .infinite false => "inf"
  | .finite negative m q =>
    let sign := if negative then "-" else ""
    if m == 0 then sign ++ "0.0"
    else
      let (d, e) := shortest m q
      let all := digits d
      let k := e + Int.ofNat all.length - 1
      sign ++ Layout.standard.render (dropZeros all) k

/-- The text of a number: the digits of a whole number, the shortest text of a double. -/
def ofNum : Num → String
  | .int i => ofInt i
  | .real x => ofFloat x

def fixedFloat (places : Nat) (x : Float) : String :=
  match Binary.ofFloat x with
  | .nan => "nan"
  | .infinite true => "-inf"
  | .infinite false => "inf"
  | .finite negative m q =>
    let (num, den) := Binary.ratio m q
    let scaled := roundDiv (num * Nat.pow 10 places) den
    let sign := if negative then "-" else ""
    sign ++ String.ofList (digits (scaled / Nat.pow 10 places)) ++ "." ++
      padded places (scaled % Nat.pow 10 places)

/-- A number with a fixed number of places; a whole number has to be in the range of doubles. -/
def fixed? (places : Nat) (n : Num) : Option String := n.toReal?.map (fixedFloat places)

end Decimal

end Testbed
