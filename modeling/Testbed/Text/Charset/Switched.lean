import Testbed.Text.Charset.CodePages
import Testbed.Text.Charset.Combined

/-!
# Encodings that switch

Bytes of seven bits stand for one set of characters at a time, and escape sequences say for which.
A set may come in at one of three places; shifts say which place counts, or bring in the third one
for a single character.
-/

namespace Testbed.Text

set_option autoImplicit false

/-- Sets of characters that bytes of seven bits stand for. -/
inductive CharacterSet where
  | ascii
  /-- ASCII with two signs of Japan. -/
  | roman
  /-- The half-wide syllables of Japan. -/
  | halfWide
  | table (rows : Rows)
  /-- The common Japanese table and the third level. -/
  | levels (edition : Edition)
  /-- A code page with its halves exchanged, which comes in only for single characters. -/
  | exchanged (page : CodePage)

def CharacterSet.width : CharacterSet → Nat
  | table _ | levels _ => 2
  | _ => 1

/-- The characters of two bytes, of which the second one counts in tables only. -/
def CharacterSet.chars (set : CharacterSet) (a b : Nat) : List (Option Char) :=
  match set with
  | ascii => [some (Char.ofNat a)]
  | roman => [some (romanChar a)]
  | halfWide => [halfWide? (a + 0x80)]
  | table rows => [squareChar? rows (a + 0x80) (b + 0x80)]
  | levels edition =>
    (edition.squareChars? (a + 0x80) (b + 0x80)).getD [none]
  | exchanged _ => [none]

def CharacterSet.single? (set : CharacterSet) (b : UInt8) : Option Char :=
  match set with
  | ascii => if b < 0x80 then some (Char.ofNat b.toNat) else none
  | exchanged page => page.char? (b ^^^ 0x80)
  | _ => none

/-- An encoding that switches: its sets, by the last byte of their escape sequences, and what else
it knows. -/
structure Switching where
  narrow : List (UInt8 × CharacterSet) := []
  wide : List (UInt8 × CharacterSet) := []
  /-- Whether control bytes choose between the first two places. -/
  hasShifts : Bool := false
  /-- Whether there is a third place. -/
  hasSingles : Bool := false
  /-- Whether an escape sequence may announce a revision of a table. -/
  hasRevisions : Bool := false

/-- What stands at the three places, and how bytes are read. -/
structure Places where
  first : CharacterSet := .ascii
  second : CharacterSet := .ascii
  third : CharacterSet := .ascii
  isShifted : Bool := false
  /-- Whether the bytes of an unknown escape sequence are passed on. -/
  isPassing : Bool := false

namespace Switching

def escape : UInt8 := 0x1B

def isFinal (b : UInt8) : Bool := 0x40 ≤ b && b ≤ 0x5A

/-- How many bytes an escape sequence has when so many are passed already: zero when it does not end
in time, `none` when it is cut off.  The fuel is the number of places that are tried. -/
def escapeLength? (w : Switching) : Nat → Nat → List UInt8 → Option Nat
  | 0, _, _ => some 0
  | fuel + 1, passed, bytes =>
    if 16 ≤ passed then some 0
    else match bytes with
      | [] => none
      | b :: rest =>
        if isFinal b then some (passed + 1)
        else match w.hasRevisions, b, rest with
          | true, 0x26, 0x40 :: _ => escapeLength? w fuel (passed + 3) (rest.drop 2)
          | _, _, _ => escapeLength? w fuel (passed + 1) rest

def narrow? (w : Switching) (final : UInt8) : Option CharacterSet :=
  if final == 0x42 then some .ascii else w.narrow.lookup final

/-- What an escape sequence, without its first byte, does to the places. -/
def designate? (w : Switching) (p : Places) (sequence : List UInt8) : Option Places :=
  match sequence with
  | [0x24, final] => (w.wide.lookup final).map fun set => { p with first := set }
  | [0x28, final] => (w.narrow? final).map fun set => { p with first := set }
  | [0x29, final] => (w.narrow? final).map fun set => { p with second := set }
  | [0x2E, final] =>
    if w.hasSingles then (w.narrow? final).map fun set => { p with third := set } else none
  | [0x24, 0x28, final] => (w.wide.lookup final).map fun set => { p with first := set }
  | [0x24, 0x29, final] => (w.wide.lookup final).map fun set => { p with second := set }
  | [_, _, 0x1B, 0x24, 0x42] =>
    if w.hasRevisions then (w.wide.lookup 0x42).map fun set => { p with first := set } else none
  | _ => none

def afterEscape (w : Switching) (p : Places) (rest : List UInt8) :
    List (Option Char) × Places × List UInt8 :=
  match rest with
  | [] => ([none], p, [])
  | b :: tail =>
    if [0x28, 0x29, 0x24, 0x2E, 0x26].contains b then
      match w.escapeLength? 16 1 rest with
      | none => ([none], p, [])
      | some 0 => ([none], p, rest)
      | some n =>
        match w.designate? p (rest.take (n - 1)) with
        | some p => ([], p, rest.drop (n - 1))
        | none => ([none], p, rest.drop (n - 1))
    else if w.hasSingles && b == 0x4E then
      match tail with
      | [] => ([none], p, [])
      | c :: tail => ([p.third.single? c], p, tail)
    else ([some (Char.ofNat escape.toNat)], { p with isPassing := true }, rest)

def step (w : Switching) (p : Places) (b : UInt8) (rest : List UInt8) :
    List (Option Char) × Places × List UInt8 :=
  let itself := [some (Char.ofNat b.toNat)]
  if p.isPassing then (itself, { p with isPassing := !isFinal b }, rest)
  else if b == escape then w.afterEscape p rest
  else if w.hasShifts && (b == 0x0E || b == 0x0F) then ([], { p with isShifted := b == 0x0E }, rest)
  else if b == 0x0A then (itself, { p with isShifted := false }, rest)
  else if b < 0x20 then (itself, p, rest)
  else if 0x80 ≤ b then ([none], p, rest)
  else
    let set := if p.isShifted then p.second else p.first
    match set.width, rest with
    | 2, [] => ([none], p, [])
    | 2, c :: tail => (set.chars b.toNat c.toNat, p, tail)
    | _, _ => (set.chars b.toNat 0, p, rest)

/-- Reads all bytes.  The fuel is their number. -/
def run (w : Switching) : Nat → Places → List UInt8 → List (Option Char)
  | _, _, [] => []
  | 0, _, _ => []
  | fuel + 1, p, b :: rest =>
    let (cs, p, rest) := w.step p b rest
    cs ++ w.run fuel p rest

end Switching

def switchings : List (String × Switching) :=
  let roman := ((0x4A : UInt8), CharacterSet.roman)
  let halfWide := ((0x49 : UInt8), CharacterSet.halfWide)
  let common := ((0x42 : UInt8), CharacterSet.table japaneseRows)
  let japanese := [common, (0x40, .table japaneseRows)]
  let rare := ((0x44 : UInt8), CharacterSet.table rareJapaneseRows)
  let fourth := ((0x50 : UInt8), CharacterSet.table fourthLevelRows)
  let korean := ((0x43 : UInt8), CharacterSet.table koreanRows)
  let chinese := ((0x41 : UInt8), CharacterSet.table chineseRows)
  let latin : CodePage := ⟨(List.replicate 128 '\uFFFD' ++ CodePage.run 128 128).toArray⟩
  let greek := (codePages.lookup "iso8859_7").map fun page =>
    ⟨page.cells.map fun c => if ['€', '₯', 'ͺ'].contains c then '\uFFFD' else c⟩
  [("iso2022_jp", { narrow := [roman], wide := japanese, hasRevisions := true }),
   ("iso2022_jp_1", { narrow := [roman], wide := rare :: japanese, hasRevisions := true }),
   ("iso2022_jp_2",
    { narrow := [roman, (0x41, .exchanged latin), (0x46, .exchanged (greek.getD latin))]
      wide := rare :: korean :: chinese :: japanese
      hasSingles := true
      hasRevisions := true }),
   ("iso2022_jp_ext",
    { narrow := [roman, halfWide], wide := rare :: japanese, hasRevisions := true }),
   ("iso2022_jp_3", { wide := [(0x4F, .levels .first), fourth, common], hasRevisions := true }),
   ("iso2022_jp_2004",
    { wide := [(0x51, .levels .second), fourth, common], hasRevisions := true }),
   ("iso2022_kr", { wide := [korean], hasShifts := true })]

/-- Reads Chinese between braces with tildes, and ASCII outside of them. -/
def tildes (inBraces : Bool) : List UInt8 → List (Option Char)
  | [] => []
  | [b] => [if b == 0x7E || 0x80 ≤ b || inBraces then none else some (Char.ofNat b.toNat)]
  | b :: c :: rest =>
    if b == 0x7E then
      match inBraces, c with
      | false, 0x7E => some '~' :: tildes false rest
      | false, 0x7B => tildes true rest
      | false, 0x0A => tildes false rest
      | true, 0x7D => tildes false rest
      | _, _ => none :: tildes inBraces (c :: rest)
    else if 0x80 ≤ b then none :: tildes inBraces (c :: rest)
    else if inBraces then
      match squareChar? chineseRows (b.toNat + 0x80) (c.toNat + 0x80) with
      | some d => some d :: tildes true rest
      | none => none :: tildes true (c :: rest)
    else some (Char.ofNat b.toNat) :: tildes false (c :: rest)

end Testbed.Text
