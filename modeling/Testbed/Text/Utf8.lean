import Testbed.Value.Notation

/-!
# UTF-8

One character of UTF-8 is read at a time, so that a text can be read strictly, with the place and
the reason of its first ill-formed part, or with a replacement character for every maximal
ill-formed part.
-/

namespace Testbed.Text

set_option autoImplicit false

/-- One reading step: a character, or `none` for an ill-formed part, and the rest. -/
abbrev Step := Option Char × List UInt8

/-- The number of continuation bytes after a lead byte, with the range of the first one. -/
def leadShape (b : UInt8) : Option (Nat × UInt8 × UInt8) :=
  if 0xC2 ≤ b && b ≤ 0xDF then some (1, 0x80, 0xBF)
  else if b == 0xE0 then some (2, 0xA0, 0xBF)
  else if b == 0xED then some (2, 0x80, 0x9F)
  else if 0xE1 ≤ b && b ≤ 0xEF then some (2, 0x80, 0xBF)
  else if b == 0xF0 then some (3, 0x90, 0xBF)
  else if 0xF1 ≤ b && b ≤ 0xF3 then some (3, 0x80, 0xBF)
  else if b == 0xF4 then some (3, 0x80, 0x8F)
  else none

/-- Collects continuation bytes; the first must lie between `lo` and `hi`. -/
def continuation : Nat → UInt8 → UInt8 → Nat → List UInt8 → Step
  | 0, _, _, code, rest => (some (Char.ofNat code), rest)
  | n + 1, lo, hi, code, b :: rest =>
    if lo ≤ b && b ≤ hi then continuation n 0x80 0xBF (code * 64 + (b.toNat - 0x80)) rest
    else (none, b :: rest)
  | _ + 1, _, _, _, [] => (none, [])

def utf8Step (b : UInt8) (rest : List UInt8) : Step :=
  if b < 0x80 then (some (Char.ofNat b.toNat), rest)
  else match leadShape b with
    | none => (none, rest)
    | some (n, lo, hi) =>
      let bits := if n == 1 then b.toNat - 0xC0 else if n == 2 then b.toNat - 0xE0
        else b.toNat - 0xF0
      continuation n lo hi bits rest

/-- Repeats a step over all bytes.  The fuel is the number of bytes left. -/
def decodeWith (step : UInt8 → List UInt8 → Step) : Nat → List UInt8 → List (Option Char)
  | _, [] => []
  | 0, _ => []
  | fuel + 1, b :: rest =>
    let (c, tail) := step b rest
    c :: decodeWith step fuel tail

/-- Some characters, of which ill-formed ones are missing, and the rest. -/
abbrev Piece := List (Option Char) × List UInt8

/-- Repeats a step that reads any number of characters over all bytes.  The fuel is the number of
bytes left. -/
def readPieces (step : UInt8 → List UInt8 → Piece) : Nat → List UInt8 → List (Option Char)
  | _, [] => []
  | 0, _ => []
  | fuel + 1, b :: rest =>
    let (cs, tail) := step b rest
    cs ++ readPieces step fuel tail

def utf8Bytes (s : String) : List UInt8 := s.toUTF8.toList

inductive Utf8Problem where
  | badStart
  | badContinuation
  | cutOff
  deriving DecidableEq, Repr

def Utf8Problem.text : Utf8Problem → String
  | badStart => "invalid start byte"
  | badContinuation => "invalid continuation byte"
  | cutOff => "unexpected end of data"

/-- An ill-formed part of a byte string: its first byte, its place, its length and what is wrong. -/
structure IllFormed where
  byte : UInt8
  position : Nat
  length : Nat
  problem : Utf8Problem
  deriving DecidableEq, Repr

def IllFormed.message (i : IllFormed) : String :=
  let place := if i.length == 1 then
      s!"byte 0x{String.ofList (Literal.hex 2 i.byte.toNat)} in position {i.position}"
    else s!"bytes in position {i.position}-{i.position + i.length - 1}"
  s!"'utf-8' codec can't decode {place}: {i.problem.text}"

/-- The first ill-formed part of a byte string that starts at a position.  The fuel is the number
of bytes left. -/
def illFormedFrom (position : Nat) : Nat → List UInt8 → Option IllFormed
  | _, [] => none
  | 0, _ => none
  | fuel + 1, b :: rest =>
    match utf8Step b rest with
    | (some c, tail) => illFormedFrom (position + c.utf8Size) fuel tail
    | (none, tail) =>
      let problem : Utf8Problem := if (leadShape b).isNone then .badStart
        else if tail.isEmpty then .cutOff else .badContinuation
      some { byte := b, position, length := rest.length + 1 - tail.length, problem }

def illFormed? (bytes : List UInt8) : Option IllFormed := illFormedFrom 0 bytes.length bytes

/-- The text of a byte string, or its first ill-formed part. -/
def ofUtf8 (bytes : List UInt8) : Except IllFormed String :=
  match illFormed? bytes with
  | some i => .error i
  | none => .ok (String.ofList ((decodeWith utf8Step bytes.length bytes).filterMap id))

/-- The text of a byte string, with a replacement character for every ill-formed part. -/
def ofUtf8Lossy (bytes : List UInt8) : String :=
  String.ofList ((decodeWith utf8Step bytes.length bytes).map (·.getD '\uFFFD'))

end Testbed.Text
