import Testbed.Text.Utf8

/-!
# UTF-7

Characters beyond ASCII stand in sections of base sixty-four digits between a plus sign and the next
character that is no digit; a hyphen there belongs to the section.
-/

namespace Testbed.Text

set_option autoImplicit false

def digit64? (b : UInt8) : Option Nat :=
  let n := b.toNat
  if 65 ≤ n && n ≤ 90 then some (n - 65)
  else if 97 ≤ n && n ≤ 122 then some (n - 71)
  else if 48 ≤ n && n ≤ 57 then some (n + 4)
  else if n == 43 then some 62
  else if n == 47 then some 63
  else none

/-- What is known within a section: the bits that are left, their number, and the first half of a
pair. -/
structure Section64 where
  value : Nat := 0
  count : Nat := 0
  half : Option Nat := none

/-- A unit of sixteen bits after an optional first half of a pair. -/
def unitChars (half : Option Nat) (unit : Nat) : List (Option Char) × Option Nat :=
  let isHigh := 0xD800 ≤ unit && unit < 0xDC00
  let isLow := 0xDC00 ≤ unit && unit < 0xE000
  let alone : List (Option Char) × Option Nat :=
    if isHigh then ([], some unit) else if isLow then ([none], none)
    else ([some (Char.ofNat unit)], none)
  match half with
  | none => alone
  | some high =>
    if isLow then
      ([some (Char.ofNat (0x10000 + (high - 0xD800) * 0x400 + (unit - 0xDC00)))], none)
    else (none :: alone.1, alone.2)

/-- One digit more. -/
def Section64.push (s : Section64) (d : Nat) : List (Option Char) × Section64 :=
  let value := s.value * 64 + d
  let count := s.count + 6
  if 16 ≤ count then
    let (cs, half) := unitChars s.half (value / Nat.pow 2 (count - 16))
    (cs, ⟨value % Nat.pow 2 (count - 16), count - 16, half⟩)
  else ([], { s with value, count })

def Section64.isWhole (s : Section64) : Bool := s.count < 6 && s.value == 0

def utf7 : Option Section64 → List UInt8 → List (Option Char)
  | none, [] => []
  | some s, [] => if s.half.isSome || !s.isWhole then [none] else []
  | none, b :: rest =>
    if b == 43 then
      match rest with
      | [] => utf7 (some {}) []
      | c :: tail =>
        if c == 45 then some '+' :: utf7 none tail
        else match digit64? c with
          | none => none :: utf7 none tail
          | some d => utf7 (some { value := d, count := 6 }) tail
    else (if b < 128 then some (Char.ofNat b.toNat) else none) :: utf7 none rest
  | some s, b :: rest =>
    match digit64? b with
    | some d =>
      let (cs, s) := s.push d
      cs ++ utf7 (some s) rest
    | none =>
      if !s.isWhole then none :: utf7 none rest
      else
        let lost := if s.half.isSome && b < 128 then [none] else []
        if b == 45 then lost ++ utf7 none rest
        else lost ++ (if b < 128 then some (Char.ofNat b.toNat) else none) :: utf7 none rest

end Testbed.Text
