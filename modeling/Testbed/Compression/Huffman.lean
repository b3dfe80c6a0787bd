import Testbed.Compression.Bits

/-!
# Prefix codes

A prefix code is a binary tree with symbols at its leaves.  It is given by the lengths of its
code words: words of one length are in the order of their symbols, and shorter words come first.
-/

namespace Testbed.Compression

set_option autoImplicit false

inductive Code where
  | unused
  | symbol (s : Nat)
  | fork (zero one : Code)
  deriving Inhabited

namespace Code

def insert (s : Nat) : List Bool → Code → Code
  | [], _ => .symbol s
  | b :: word, c =>
    let (zero, one) := match c with
      | .fork zero one => (zero, one)
      | _ => (.unused, .unused)
    if b then .fork zero (insert s word one) else .fork (insert s word zero) one

/-- Reads a word; the symbol is missing where no word continues. -/
def read? : Code → Reader (Option Nat)
  | .unused => pure none
  | .symbol s => pure (some s)
  | .fork zero one => do
    if ← Reader.bit then read? one else read? zero

/-- A word of some length, the highest bit first. -/
def word (length code : Nat) : List Bool :=
  ((List.range length).map fun i => code.testBit i).reverse

def maxLength : Nat := 15

def symbolsOf (lengths : List Nat) (length : Nat) : List Nat :=
  (lengths.zipIdx.filter fun (l, _) => l == length).map Prod.snd

/-- How many more words of the greatest length a code has room for, unless it has too many
already. -/
def room? (lengths : List Nat) : Option Nat :=
  (List.range' 1 maxLength).foldlM (fun room length =>
    let used := lengths.count length
    if 2 * room < used then none else some (2 * room - used)) 1

/-- Gives words of a length to symbols, from a code on. -/
def addWords (length : Nat) : List Nat → Nat × Code → Nat × Code
  | [], r => r
  | s :: rest, (next, c) => addWords length rest (next + 1, c.insert s (word length next))

/-- The code with words of some lengths; length zero means that there is no word. -/
def ofLengths (lengths : List Nat) : Code :=
  ((List.range' 1 maxLength).foldl (fun (next, c) length =>
    addWords length (symbolsOf lengths length) (2 * next, c))
    (0, .fork .unused .unused)).2

/-- Whether no word can be added.  A code without words counts, and so does a code of a single word
of one bit where `loose` allows it. -/
def isFull (loose : Bool) (lengths : List Nat) : Bool :=
  match room? lengths with
  | none => false
  | some room => room == 0 || lengths.all (· == 0) || (loose && lengths.all (· ≤ 1))

end Code

end Testbed.Compression
