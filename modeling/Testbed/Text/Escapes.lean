import Testbed.Text.Utf8

/-!
# Characters behind backslashes

Bytes are code points, and a backslash with what follows names a character.
-/

namespace Testbed.Text

set_option autoImplicit false

def digit16? (b : UInt8) : Option Nat :=
  let n := b.toNat
  if 48 ≤ n && n ≤ 57 then some (n - 48)
  else if 65 ≤ n && n ≤ 70 then some (n - 55)
  else if 97 ≤ n && n ≤ 102 then some (n - 87)
  else none

/-- The values of the digits at the start of some bytes, at most so many. -/
def digits16 (most : Nat) (bytes : List UInt8) : List Nat :=
  (((bytes.take most).map digit16?).takeWhile Option.isSome).filterMap id

def ofDigits (base : Nat) (digits : List Nat) : Nat := digits.foldl (fun n d => n * base + d) 0

def ofCode? (code : Nat) : Option Char := if code.isValidChar then some (Char.ofNat code) else none

/-- The character whose code point has so many digits of base sixteen. -/
def ofHex (count : Nat) (bytes : List UInt8) : Piece :=
  let digits := digits16 count bytes
  (if digits.length < count then [none] else [ofCode? (ofDigits 16 digits)],
    bytes.drop digits.length)

/-- The character of four digits, or of two halves of four digits each. -/
def ofUnits (bytes : List UInt8) : Piece :=
  let high := ofDigits 16 (digits16 4 bytes)
  match bytes.drop 4 with
  | 0x5C :: 0x75 :: rest =>
    let digits := digits16 4 rest
    let low := ofDigits 16 digits
    if (digits16 4 bytes).length == 4 && digits.length == 4 && 0xD800 ≤ high && high < 0xDC00 &&
        0xDC00 ≤ low && low < 0xE000 then
      ([ofCode? (0x10000 + (high - 0xD800) * 0x400 + (low - 0xDC00))], rest.drop 4)
    else ofHex 4 bytes
  | _ => ofHex 4 bytes

/-- The control or sign that a letter behind a backslash names. -/
def signOf? (b : UInt8) : Option Char :=
  ([('\\', '\\'), ('\'', '\''), ('"', '"'), ('a', '\x07'), ('b', '\x08'), ('t', '\t'), ('n', '\n'),
    ('v', '\x0B'), ('f', '\x0C'), ('r', '\r')] : List (Char × Char)).lookup (Char.ofNat b.toNat)

/-- A character by its name in braces.  No name is known. -/
def ofName (bytes : List UInt8) : Piece :=
  match bytes with
  | 0x7B :: rest =>
    let name := rest.takeWhile (· != 0x7D)
    let after := rest.drop name.length
    ([none], if name.isEmpty then after else after.drop 1)
  | _ => ([none], bytes)

/-- What a backslash and the bytes behind it stand for. -/
def ofEscape (bytes : List UInt8) : Piece :=
  match bytes with
  | [] => ([none], [])
  | 0x0A :: rest => ([], rest)
  | 0x78 :: rest => ofHex 2 rest
  | 0x75 :: rest => ofUnits rest
  | 0x55 :: rest => ofHex 8 rest
  | 0x4E :: rest => ofName rest
  | b :: rest =>
    let octal := (digits16 3 bytes).takeWhile (· < 8)
    if octal.isEmpty then
      match signOf? b with
      | some c => ([some c], rest)
      | none => ([some '\\', some (Char.ofNat b.toNat)], rest)
    else ([some (Char.ofNat (ofDigits 8 octal))], bytes.drop octal.length)

/-- What a backslash and the bytes behind it stand for, when only code points are escaped. -/
def ofCodeEscape (bytes : List UInt8) : Piece :=
  match bytes with
  | [] => ([some '\\'], [])
  | 0x75 :: rest => ofUnits rest
  | 0x55 :: rest => ofHex 8 rest
  | b :: rest => ([some '\\', some (Char.ofNat b.toNat)], rest)

def escapedPiece (ofEscape : List UInt8 → Piece) (b : UInt8) (rest : List UInt8) : Piece :=
  if b == 0x5C then ofEscape rest else ([some (Char.ofNat b.toNat)], rest)

end Testbed.Text
