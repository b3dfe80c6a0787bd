import Testbed.Text.Charset.Extensions
import Testbed.Text.Charset.Japanese
import Testbed.Text.Charset.Taiwanese
import Testbed.Text.Utf8

/-!
# Encodings of large scripts

Characters of East Asia are written in two bytes, sometimes more, beside ASCII in one.  A byte that
starts no character is ill-formed alone, and a character that is cut off is ill-formed as a whole.
-/

namespace Testbed.Text

set_option autoImplicit false

inductive DoubleByte where
  | japaneseUnix
  | japaneseShifted
  | japaneseWide
  | chinese
  | chineseWide
  | chineseWidest
  | taiwanese
  | taiwaneseWide
  | korean
  | koreanWide
  | koreanLetters
  deriving DecidableEq, Repr

/-- The character of two bytes, or a first byte that is ill-formed. -/
def pairStep (char? : Nat → Nat → Option Char) (a : UInt8) (rest : List UInt8) : Step :=
  match rest with
  | [] => (none, [])
  | b :: tail =>
    match char? a.toNat b.toNat with
    | some c => (some c, tail)
    | none => (none, rest)

/-- The character of a table of ninety-four rows and cells. -/
def squareChar? (t : Rows) (a b : Nat) : Option Char :=
  if 0xA1 ≤ a && 0xA1 ≤ b then t.char? (a - 0xA1) (b - 0xA1) else none

/-- The place of a second byte that skips `0x7F`. -/
def skippedPlace (b : Nat) : Nat := if b < 0x7F then b - 0x40 else b - 0x41

def halfWide? (b : Nat) : Option Char :=
  if 0xA1 ≤ b && b ≤ 0xDF then some (Char.ofNat (0xFEC0 + b)) else none

/-- Japanese in two bytes, in three for rare characters, or half-wide. -/
def japaneseUnixStep (a : UInt8) (rest : List UInt8) : Step :=
  match a, rest with
  | 0x8E, b :: tail =>
    match halfWide? b.toNat with
    | some c => (some c, tail)
    | none => (none, rest)
  | 0x8F, b :: c :: tail =>
    match squareChar? rareJapaneseRows b.toNat c.toNat with
    | some d => (some d, tail)
    | none => (none, rest)
  | 0x8F, _ => (none, [])
  | _, _ => pairStep (squareChar? japaneseRows) a rest

/-- The character of two bytes of which the first one stands for two rows. -/
def shiftedChar? (a b : Nat) : Option Char :=
  if b < 0x40 || b == 0x7F || 0xFC < b then none
  else
    let row := 2 * (if a < 0xA0 then a - 0x81 else a - 0xC1)
    let place := skippedPlace b
    if place < 94 then japaneseRows.char? row place else japaneseRows.char? (row + 1) (place - 94)

def isShiftedLead (a : Nat) : Bool := (0x81 ≤ a && a ≤ 0x9F) || (0xE0 ≤ a && a ≤ 0xFC)

def japaneseShiftedStep (a : UInt8) (rest : List UInt8) : Step :=
  match halfWide? a.toNat with
  | some c => (some c, rest)
  | none => if isShiftedLead a.toNat then pairStep shiftedChar? a rest else (none, rest)

def charAt? (s : String) (place : Nat) : Option Char := (s.toList[place]?).filter (· != ' ')

/-- The character of two bytes in the wider encoding: its own, those of the table, and private
ones. -/
def japaneseWideChar? (a b : Nat) : Option Char :=
  if b < 0x40 || b == 0x7F || 0xFC < b then none
  else
    let place := skippedPlace b
    if a == 0x87 then charAt? addedJapaneseSigns place
    else if a == 0xED || a == 0xEE then
      charAt? (addedJapaneseIdeographs ++ firstJapaneseSigns) ((a - 0xED) * 188 + place)
    else if 0xF0 ≤ a && a ≤ 0xF9 then some (Char.ofNat (0xE000 + (a - 0xF0) * 188 + place))
    else if 0xFA ≤ a then
      charAt? (lastJapaneseSigns ++ addedJapaneseIdeographs) ((a - 0xFA) * 188 + place)
    else (shiftedChar? a b).map fun c => (otherJapaneseSigns.lookup c).getD c

def japaneseWideStep (a : UInt8) (rest : List UInt8) : Step :=
  let n := a.toNat
  if n == 0x80 then (some (Char.ofNat 0x80), rest)
  else if n == 0xA0 then (some (Char.ofNat 0xF8F0), rest)
  else if 0xFD ≤ n then (some (Char.ofNat (0xF8F1 + (n - 0xFD))), rest)
  else match halfWide? n with
    | some c => (some c, rest)
    | none => pairStep japaneseWideChar? a rest

/-- Ideographs before and after the table, and signs in its gaps. -/
def addedChineseChar? (a b : Nat) : Option Char :=
  let place := skippedPlace b
  let ideograph :=
    if b < 0x40 || b == 0x7F || 0xFE < b then none
    else if a < 0xA1 then addedIdeographs[(a - 0x81) * 190 + place]?
    else if 0xAA ≤ a && b ≤ 0xA0 then addedIdeographs[6080 + (a - 0xAA) * 96 + place]?
    else none
  let sign := addedChineseSigns.findSome? fun (lead, first, signs) =>
    if a == lead && first ≤ b then charAt? signs (b - first) else none
  if 0x81 ≤ a then ideograph.or sign else none

def chineseWideChar? (a b : Nat) : Option Char :=
  match a * 256 + b with
  | 0xA1AA => some '—'
  | 0xA844 => some '―'
  | 0xA1A4 => some '·'
  | _ => (squareChar? chineseRows a b).or (addedChineseChar? a b)

/-- Private characters, and characters that other pairs stand for, in the widest encoding. -/
def widestChineseChar? (a b : Nat) : Option Char :=
  let code :=
    if 0xA1 ≤ b && b ≤ 0xFE && 0xAA ≤ a && a ≤ 0xAF then
      some (0xE000 + (a - 0xAA) * 94 + (b - 0xA1))
    else if 0xA1 ≤ b && b ≤ 0xFE && 0xF8 ≤ a && a ≤ 0xFE then
      some (0xE234 + (a - 0xF8) * 94 + (b - 0xA1))
    else if 0x40 ≤ b && b ≤ 0xA0 && b != 0x7F && 0xA1 ≤ a && a ≤ 0xA7 then
      some (0xE4C6 + (a - 0xA1) * 96 + skippedPlace b)
    else widestChineseRuns.findSome? fun (pair, first, count) =>
      let n := a * 256 + b
      if pair ≤ n && n < pair + count then some (first + (n - pair)) else none
  code.map Char.ofNat

def fourByteChar? (a b c d : Nat) : Option Char :=
  let place (lead : Nat) := (((a - lead) * 10 + (b - 0x30)) * 126 + (c - 0x81)) * 10 + (d - 0x30)
  if a < 0x81 || 0xFE < a || c < 0x81 || 0xFE < c || d < 0x30 || 0x39 < d then none
  else if a < 0x85 then
    let n := place 0x81
    if n < 39420 then
      ((fourByteRuns.reverse.find? fun (first, _) => first ≤ n).map fun (first, code) =>
        Char.ofNat (code + (n - first)))
    else none
  else if 0x90 ≤ a then
    let code := 0x10000 + place 0x90
    if code ≤ 0x10FFFF then some (Char.ofNat code) else none
  else none

def chineseWidestStep (a : UInt8) (rest : List UInt8) : Step :=
  match rest with
  | [] => (none, [])
  | b :: tail =>
    if 0x30 ≤ b && b ≤ 0x39 then
      match tail with
      | c :: d :: tail =>
        match fourByteChar? a.toNat b.toNat c.toNat d.toNat with
        | some e => (some e, tail)
        | none => (none, rest)
      | _ => (none, [])
    else pairStep (fun a b => (chineseWideChar? a b).or (widestChineseChar? a b)) a rest

def taiwaneseChar? (a b : Nat) : Option Char :=
  if a < 0xA1 then none
  else if 0x40 ≤ b && b ≤ 0x7E then taiwaneseRows.char? (a - 0xA1) (b - 0x40)
  else if 0xA1 ≤ b then taiwaneseRows.char? (a - 0xA1) (b - 0xA1 + 63)
  else none

def taiwaneseWideChar? (a b : Nat) : Option Char :=
  match otherTaiwaneseSigns.lookup (a * 256 + b) with
  | some code => some (Char.ofNat code)
  | none =>
    if a == 0xF9 && 0xD6 ≤ b then charAt? addedTaiwaneseCharacters (b - 0xD6)
    else taiwaneseChar? a b

/-- The place of a second byte that is a letter or lies beyond ASCII. -/
def letterPlace? (b : Nat) : Option Nat :=
  if 0x41 ≤ b && b ≤ 0x5A then some (b - 0x41)
  else if 0x61 ≤ b && b ≤ 0x7A then some (b - 0x61 + 26)
  else if 0x81 ≤ b && b ≤ 0xFE then some (b - 0x81 + 52)
  else none

def koreanWideChar? (a b : Nat) : Option Char :=
  (squareChar? koreanRows a b).or <|
    (letterPlace? b).bind fun place =>
      if 0x81 ≤ a && a < 0xA1 then addedSyllables[(a - 0x81) * 178 + place]?
      else if 0xA1 ≤ a && a ≤ 0xC6 && place < 84 then
        addedSyllables[5696 + (a - 0xA1) * 84 + place]?
      else none

/-- The letters that Korean syllables start and end with, in the order of their numbers. -/
def koreanStarts : String := "ㄱㄲㄴㄷㄸㄹㅁㅂㅃㅅㅆㅇㅈㅉㅊㅋㅌㅍㅎ"
def koreanEndings : String := "ㄱㄲㄳㄴㄵㄶㄷㄹㄺㄻㄼㄽㄾㄿㅀㅁㅂㅄㅅㅆㅇㅈㅊㅋㅌㅍㅎ"

/-- The place of a letter, given by its second byte, among some letters. -/
def letterNumber? (letters : String) (b : Nat) : Option Nat :=
  (koreanRows.char? 3 (b - 0xA1)).bind fun c => letters.toList.findIdx? (· == c)

/-- The syllable of three letters; the last one may be missing. -/
def spelledSyllable? (start vowel ending : Nat) : Option Char := do
  let s ← if 0xA1 ≤ start then letterNumber? koreanStarts start else none
  guard (0xBF ≤ vowel && vowel ≤ 0xD3)
  let e ← if ending == 0xD4 then some 0
    else if 0xA1 ≤ ending then (letterNumber? koreanEndings ending).map (· + 1) else none
  pure (Char.ofNat (0xAC00 + (s * 21 + (vowel - 0xBF)) * 28 + e))

/-- Korean in two bytes, or in eight for syllables that are spelled out. -/
def koreanStep (a : UInt8) (rest : List UInt8) : Step :=
  match a, rest with
  | 0xA4, 0xD4 :: tail =>
    match tail with
    | 0xA4 :: start :: 0xA4 :: vowel :: 0xA4 :: ending :: after =>
      match spelledSyllable? start.toNat vowel.toNat ending.toNat with
      | some c => (some c, after)
      | none => (none, rest)
    | _ => if tail.length < 6 then (none, []) else (none, rest)
  | _, _ => pairStep (squareChar? koreanRows) a rest

/-- The place of a first letter by its five bits: `none` if there is none, zero if it is missing. -/
def startPlace? (bits : Nat) : Option Nat :=
  if 1 ≤ bits && bits ≤ 20 then some (bits - 1) else none

/-- The place of a vowel by its five bits. -/
def vowelPlace? (bits : Nat) : Option Nat :=
  if bits < 2 || 29 < bits || bits % 8 < 2 then none
  else some (bits - 2 * (bits / 8) - 2)

/-- The place of a last letter by its five bits. -/
def endingPlace? (bits : Nat) : Option Nat :=
  if 1 ≤ bits && bits ≤ 17 then some (bits - 1)
  else if 19 ≤ bits && bits ≤ 29 then some (bits - 2)
  else none

/-- A letter alone, or the syllable of two or three letters. -/
def lettersChar? (start vowel ending : Nat) : Option Char :=
  match start, vowel, ending with
  | 0, 0, 0 => some (Char.ofNat 0x3000)
  | 0, 0, e + 1 => koreanEndings.toList[e]?
  | 0, v + 1, 0 => some (Char.ofNat (0x314F + v))
  | s + 1, 0, 0 => koreanStarts.toList[s]?
  | s + 1, v + 1, e => some (Char.ofNat (0xAC00 + (s * 21 + v) * 28 + e))
  | _, _, _ => none

/-- The character of two bytes that hold the letters of a syllable, or a place in the table. -/
def koreanLettersChar? (a b : Nat) : Option Char :=
  if a < 0xD8 then do
    lettersChar? (← startPlace? (a / 4 % 32)) (← vowelPlace? ((a * 8 + b / 32) % 32))
      (← endingPlace? (b % 32))
  else if a < 0xD9 || a == 0xDF || 0xF9 < a || b < 0x31 || (0x80 ≤ b && b < 0x91) ||
      b % 0x80 == 0x7F || (a == 0xDA && 0xA1 ≤ b && b ≤ 0xD3) then none
  else
    let row := if a < 0xE0 then 2 * (a - 0xD9) else 2 * a - 0x197
    let place := if b < 0x91 then b - 0x31 else b - 0x43
    if place < 94 then koreanRows.char? row place else koreanRows.char? (row + 1) (place - 94)

def DoubleByte.step (e : DoubleByte) : UInt8 → List UInt8 → Step :=
  match e with
  | japaneseUnix => japaneseUnixStep
  | japaneseShifted => japaneseShiftedStep
  | japaneseWide => japaneseWideStep
  | chinese => pairStep (squareChar? chineseRows)
  | chineseWide => pairStep chineseWideChar?
  | chineseWidest => chineseWidestStep
  | taiwanese => pairStep taiwaneseChar?
  | taiwaneseWide => pairStep taiwaneseWideChar?
  | korean => koreanStep
  | koreanWide => pairStep koreanWideChar?
  | koreanLetters => pairStep koreanLettersChar?

end Testbed.Text
