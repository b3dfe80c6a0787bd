/-!
# Letters beyond ASCII in letters of ASCII

A label is written as its ASCII characters, a hyphen, and numbers that say where its other
characters go.  Numbers have digits of base thirty-six whose weights adapt to the numbers before.
-/

namespace Testbed.Idna

set_option autoImplicit false

def base : Nat := 36
def leastThreshold : Nat := 1
def mostThreshold : Nat := 26
def skew : Nat := 38
def firstDamping : Nat := 700
def firstBias : Nat := 72
def firstCode : Nat := 128

/-- A digit: letters, then digits. -/
def digitChar (d : Nat) : Char :=
  if d < 26 then Char.ofNat ('a'.toNat + d) else Char.ofNat ('0'.toNat + (d - 26))

/-- The threshold of a digit at a place, counted in steps of the base. -/
def threshold (place bias : Nat) : Nat :=
  if place ≤ bias + leastThreshold then leastThreshold
  else if bias + mostThreshold ≤ place then mostThreshold
  else place - bias

/-- The digits of a number.  The fuel is at least the number itself. -/
def digitsOf (bias : Nat) : Nat → Nat → Nat → List Char
  | 0, _, q => [digitChar q]
  | fuel + 1, place, q =>
    let t := threshold place bias
    if q < t then [digitChar q]
    else
      digitChar (t + (q - t) % (base - t)) ::
        digitsOf bias fuel (place + base) ((q - t) / (base - t))

/-- Divides a number until it is small; counts steps of the base.  The fuel is at least the number
itself. -/
def reduce : Nat → Nat → Nat → Nat × Nat
  | 0, delta, k => (delta, k)
  | fuel + 1, delta, k =>
    if ((base - leastThreshold) * mostThreshold) / 2 < delta then
      reduce fuel (delta / (base - leastThreshold)) (k + base)
    else (delta, k)

/-- The bias after a number; `handled` characters are there by then. -/
def adapt (isFirst : Bool) (delta handled : Nat) : Nat :=
  let delta := if isFirst then delta / firstDamping else delta / 2
  let delta := delta + delta / handled
  let (delta, k) := reduce delta delta 0
  k + (base - leastThreshold + 1) * delta / (delta + skew)

/-- What is known between two numbers. -/
structure Progress where
  delta : Nat
  bias : Nat
  handled : Nat
  written : List Char

/-- Passes one character of the label when characters with a code are written. -/
def pass (code basics : Nat) (p : Progress) (c : Nat) : Progress :=
  if c < code then { p with delta := p.delta + 1 }
  else if c == code then
    { delta := 0
      bias := adapt (p.handled == basics) p.delta (p.handled + 1)
      handled := p.handled + 1
      written := p.written ++ digitsOf p.bias p.delta base p.delta }
  else p

/-- Writes all characters with one code; the code written before is given. -/
def writeCode (label : List Nat) (basics : Nat) (last : Nat × Progress) (code : Nat) :
    Nat × Progress :=
  let (before, p) := last
  let p := { p with delta := p.delta + (code - before) * (p.handled + 1) }
  let p := label.foldl (pass code basics) p
  (code + 1, { p with delta := p.delta + 1 })

def punycode (label : List Char) : List Char :=
  let codes := label.map (·.toNat)
  let basics := label.filter (·.toNat < firstCode)
  let start := if basics.isEmpty then [] else basics ++ ['-']
  let others := ((codes.filter (firstCode ≤ ·)).mergeSort (· ≤ ·)).eraseDups
  let (_, p) := others.foldl (writeCode codes basics.length)
    (firstCode, ⟨0, firstBias, basics.length, start⟩)
  p.written

def digitValue? (c : Char) : Option Nat :=
  if c.isUpper then some (c.toNat - 'A'.toNat)
  else if c.isLower then some (c.toNat - 'a'.toNat)
  else if c.isDigit then some (c.toNat - '0'.toNat + 26)
  else none

/-- The number at the start of some digits, and the rest. -/
def readNumber (bias : Nat) : Nat → Nat → Nat → List Char → Option (Nat × List Char)
  | _, _, _, [] => none
  | place, weight, number, c :: rest =>
    match digitValue? c with
    | none => none
    | some d =>
      let t := threshold place bias
      let number := number + d * weight
      if d < t then some (number, rest)
      else readNumber bias (place + base) (weight * (base - t)) number rest

/-- What is known between two numbers that are read. -/
structure Reading where
  code : Nat := firstCode
  /-- The place of the next character, counted from one. -/
  place : Nat := 0
  bias : Nat := firstBias
  isFirst : Bool := true

/-- Puts in the characters that some numbers name, as far as these are well-formed.  A character
that does not exist becomes a question mark.  The fuel is the number of digits. -/
def insertNumbers : Nat → Reading → List (Option Char) → List Char → List (Option Char)
  | _, _, written, [] => written
  | 0, _, written, _ => written
  | fuel + 1, r, written, digits =>
    match readNumber r.bias base 1 0 digits with
    | none => written
    | some (delta, rest) =>
      let places := written.length + 1
      let code := r.code + (r.place + delta) / places
      let code := if 0x10FFFF < code then '?'.toNat else code
      let place := (r.place + delta) % places
      let c := if code.isValidChar then some (Char.ofNat code) else none
      let written := written.take place ++ c :: written.drop place
      let bias := adapt r.isFirst delta written.length
      insertNumbers fuel ⟨code, place + 1, bias, false⟩ written rest

/-- The label that its characters of ASCII and its numbers stand for. -/
def ofPunycode (basics : List (Option Char)) (numbers : List Char) : List (Option Char) :=
  insertNumbers numbers.length {} basics numbers

end Testbed.Idna
