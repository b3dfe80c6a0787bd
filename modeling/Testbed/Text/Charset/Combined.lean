import Testbed.Text.Charset.DoubleByte
import Testbed.Text.Charset.HongKong
import Testbed.Text.Charset.Levels

/-!
# Encodings with combined characters

Where a character and a mark upon it have no code point of their own, two bytes stand for both.
-/

namespace Testbed.Text

set_option autoImplicit false

/-- The editions of the further Japanese characters. -/
inductive Edition where
  | first
  | second
  deriving DecidableEq, Repr

/-- The characters of a cell of the common table or of the third level; rows and cells are counted
from zero.  A cell of a later edition holds an ill-formed character. -/
def Edition.chars? (e : Edition) (row cell : Nat) : Option (List (Option Char)) :=
  if e == .first && laterCells.contains (row, cell) then some [none]
  else match (japaneseRows.char? row cell).or (thirdLevelRows.char? row cell) with
    | some c => some [some c]
    | none => (thirdLevelPairs.lookup (row, cell)).map (·.toList.map some)

/-- The characters of two bytes in a table of ninety-four rows and cells. -/
def Edition.squareChars? (e : Edition) (a b : Nat) : Option (List (Option Char)) :=
  if 0xA1 ≤ a && 0xA1 ≤ b then e.chars? (a - 0xA1) (b - 0xA1) else none

inductive Combined where
  | hongKong
  | japaneseUnix (e : Edition)
  | japaneseShifted (e : Edition)
  deriving DecidableEq, Repr

/-- The characters of two bytes, or a first byte that is ill-formed. -/
def pairPiece (chars? : Nat → Nat → Option (List (Option Char))) (a : UInt8)
    (rest : List UInt8) : Piece :=
  match rest with
  | [] => ([none], [])
  | b :: tail =>
    match chars? a.toNat b.toNat with
    | some cs => (cs, tail)
    | none => ([none], rest)

def hongKongChars? (a b : Nat) : Option (List (Option Char)) :=
  let isOwn := a == 0xC7 || a == 0xC8 || (a == 0xC6 && 0xA1 ≤ b)
  let common := if isOwn then none else taiwaneseChar? a b
  let added :=
    if 0x87 ≤ a && 0x40 ≤ b && b ≤ 0x7E then hongKongRows.char? (a - 0x87) (b - 0x40)
    else if 0x87 ≤ a && 0xA1 ≤ b then hongKongRows.char? (a - 0x87) (b - 0xA1 + 63)
    else none
  match common.or added with
  | some c => some [some c]
  | none => (hongKongPairs.lookup (a * 256 + b)).map (·.toList.map some)

/-- The fourth level, and in the first edition one cell that reads otherwise. -/
def fourthLevelChar? (e : Edition) (b c : Nat) : Option Char :=
  if e == .first && b == 0xFD && c == 0xBB then some '鬝'
  else squareChar? fourthLevelRows b c

/-- Japanese in two bytes, or in three for the fourth level and for rare characters. -/
def unixPiece (e : Edition) (a : UInt8) (rest : List UInt8) : Piece :=
  match a, rest with
  | 0x8E, b :: tail =>
    match halfWide? b.toNat with
    | some c => ([some c], tail)
    | none => ([none], rest)
  | 0x8F, b :: c :: tail =>
    match (fourthLevelChar? e b.toNat c.toNat).or
        (squareChar? rareJapaneseRows b.toNat c.toNat) with
    | some d => ([some d], tail)
    | none => ([none], rest)
  | 0x8F, _ => ([none], [])
  | 0xA2, 0xB2 :: tail => ([some '～'], tail)
  | _, _ => pairPiece e.squareChars? a rest

/-- The row of the fourth level that comes after the common ones. -/
def fourthLevelRow (row : Nat) : Nat :=
  if 0x67 ≤ row then row - 26
  else if 0x63 ≤ row || row == 0x5F then row - 88
  else row - 94

/-- The characters of two bytes of which the first one stands for two rows.  The wide backslash is
the one of ASCII. -/
def shiftedChars? (e : Edition) (a b : Nat) : Option (List (Option Char)) :=
  if b < 0x40 || b == 0x7F || 0xFC < b then none
  else
    let place := skippedPlace b
    let row := 2 * (if a < 0xA0 then a - 0x81 else a - 0xC1) + place / 94
    if row == 0 && place == 31 then some [some '\\']
    else if row < 94 then e.chars? row (place % 94)
    else (fourthLevelChar? e (fourthLevelRow row + 0xA1) (place % 94 + 0xA1)).map ([some ·])

/-- Japanese in which the first byte stands for two rows. -/
def shiftedPiece (e : Edition) (a : UInt8) (rest : List UInt8) : Piece :=
  match halfWide? a.toNat with
  | some c => ([some c], rest)
  | none =>
    if isShiftedLead a.toNat then pairPiece (shiftedChars? e) a rest else ([none], rest)

/-- The sign of a byte of ASCII, of which two are replaced in Japan. -/
def romanChar (a : Nat) : Char := if a == 0x5C then '¥' else if a == 0x7E then '‾' else Char.ofNat a

def Combined.step (e : Combined) (a : UInt8) (rest : List UInt8) : Piece :=
  match e with
  | hongKong =>
    if a < 0x80 then ([some (Char.ofNat a.toNat)], rest) else pairPiece hongKongChars? a rest
  | japaneseUnix e =>
    if a < 0x80 then ([some (Char.ofNat a.toNat)], rest) else unixPiece e a rest
  | japaneseShifted e =>
    if a < 0x80 then ([some (romanChar a.toNat)], rest) else shiftedPiece e a rest

end Testbed.Text
