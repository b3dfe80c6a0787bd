import Testbed.Compression.Huffman

/-!
# Inflating

Deflated data is a sequence of blocks: stored bytes, or bytes and references to earlier bytes under
a fixed code or under one that the block itself describes.  Data that ends early gives all bytes up
to its end.
-/

namespace Testbed.Compression

set_option autoImplicit false

/-- The first length and the number of extra bits of each length symbol from 257 on. -/
def lengthSymbols : List (Nat × Nat) := [
  (3, 0), (4, 0), (5, 0), (6, 0), (7, 0), (8, 0), (9, 0), (10, 0), (11, 1), (13, 1), (15, 1),
  (17, 1), (19, 2), (23, 2), (27, 2), (31, 2), (35, 3), (43, 3), (51, 3), (59, 3), (67, 4), (83, 4),
  (99, 4), (115, 4), (131, 5), (163, 5), (195, 5), (227, 5), (258, 0)]

/-- The first distance and the number of extra bits of each distance symbol. -/
def distanceSymbols : List (Nat × Nat) := [
  (1, 0), (2, 0), (3, 0), (4, 0), (5, 1), (7, 1), (9, 2), (13, 2), (17, 3), (25, 3), (33, 4),
  (49, 4), (65, 5), (97, 5), (129, 6), (193, 6), (257, 7), (385, 7), (513, 8), (769, 8), (1025, 9),
  (1537, 9), (2049, 10), (3073, 10), (4097, 11), (6145, 11), (8193, 12), (12289, 12), (16385, 13),
  (24577, 13)]

structure BlockCodes where
  literals : Code
  distances : Code

def fixedCodes : BlockCodes where
  literals := Code.ofLengths (List.replicate 144 8 ++ List.replicate 112 9 ++
    List.replicate 24 7 ++ List.replicate 8 8)
  distances := Code.ofLengths (List.replicate 32 5)

/-- The symbols of the code for code lengths, in the order in which their own lengths come. -/
def codeLengthOrder : List Nat :=
  [16, 17, 18, 0, 8, 7, 9, 6, 10, 5, 11, 4, 12, 3, 13, 2, 14, 1, 15]

def threeBitNumbers : Nat → Reader (List Nat)
  | 0 => pure []
  | n + 1 => do
    let l ← Reader.number 3
    pure (l :: (← threeBitNumbers n))

def repeated (c : Code) (done : List Nat) : Reader (Nat × Nat) := do
  match (← c.read?).getD 0 with
  | 16 =>
    let more ← Reader.number 2
    match done with
    | [] => Reader.corrupt .lengthRepeat
    | last :: _ => pure (3 + more, last)
  | 17 => do pure (3 + (← Reader.number 3), 0)
  | 18 => do pure (11 + (← Reader.number 7), 0)
  | l => pure (1, l)

/-- Code lengths up to a total; those read so far are given backwards.  The fuel is the number of
lengths left. -/
def codeLengths (c : Code) (total : Nat) : Nat → List Nat → Reader (List Nat)
  | 0, done => pure done.reverse
  | fuel + 1, done =>
    if total ≤ done.length then pure done.reverse
    else do
      let (times, l) ← repeated c done
      if total < done.length + times then Reader.corrupt .lengthRepeat
      else codeLengths c total fuel (List.replicate times l ++ done)

def endOfBlock : Nat := 256

def describedCodes : Reader BlockCodes := do
  let literalCount := (← Reader.number 5) + 257
  let distanceCount := (← Reader.number 5) + 1
  let lengthCount := (← Reader.number 4) + 4
  if literalCount > 286 || distanceCount > 30 then Reader.corrupt .tooManySymbols
  let given := codeLengthOrder.zip (← threeBitNumbers lengthCount)
  let own := (List.range 19).map fun s => (given.lookup s).getD 0
  if !Code.isFull false own then Reader.corrupt .codeLengthCode
  let total := literalCount + distanceCount
  let lengths ← codeLengths (Code.ofLengths own) total total []
  let literals := lengths.take literalCount
  let distances := lengths.drop literalCount
  if literals.getD endOfBlock 0 == 0 then Reader.corrupt .endOfBlockMissing
  if !Code.isFull true literals then Reader.corrupt .literalCode
  if !Code.isFull true distances then Reader.corrupt .distanceCode
  pure { literals := Code.ofLengths literals, distances := Code.ofLengths distances }

inductive Item where
  | byte (b : UInt8)
  | earlier (length distance : Nat)
  | stop

/-- A length or a distance: a first value, and extra bits that are added. -/
def extended (table : List (Nat × Nat)) (symbol : Nat) (unknown : Corruption) : Reader Nat :=
  match table[symbol]? with
  | none => Reader.corrupt unknown
  | some (first, extra) => do pure (first + (← Reader.number extra))

def item (c : BlockCodes) : Reader Item := do
  match ← c.literals.read? with
  | none => Reader.corrupt .unknownLiteral
  | some s =>
    if s < endOfBlock then pure (.byte (UInt8.ofNat s))
    else if s == endOfBlock then pure .stop
    else
      let length ← extended lengthSymbols (s - 257) .unknownLiteral
      match ← c.distances.read? with
      | none => Reader.corrupt .unknownDistance
      | some d => pure (.earlier length (← extended distanceSymbols d .unknownDistance))

/-- Repeats bytes from some distance back, which may reach into the repeated ones. -/
def copyBack (distance : Nat) : Nat → Array UInt8 → Array UInt8
  | 0, out => out
  | n + 1, out => copyBack distance n (out.push (out.getD (out.size - distance) 0))

/-- What was written, and the bits that are left unless reading stopped. -/
abbrev Written := Array UInt8 × Except Stop (List Bool)

/-- The items of a block.  The fuel is at least the number of bits. -/
def items (c : BlockCodes) : Nat → Array UInt8 → List Bool → Written
  | 0, out, _ => (out, .error .cutOff)
  | fuel + 1, out, bits =>
    match item c bits with
    | .error e => (out, .error e)
    | .ok (.byte b, rest) => items c fuel (out.push b) rest
    | .ok (.stop, rest) => (out, .ok rest)
    | .ok (.earlier length distance, rest) =>
      if out.size < distance then (out, .error (.corrupt .distanceTooFar))
      else items c fuel (copyBack distance length out) rest

/-- The length of a stored block, which is written twice. -/
def storedLength : Reader Nat := do
  Reader.alignment
  let length ← Reader.number 16
  let complement ← Reader.number 16
  if length + complement == 0xFFFF then pure length else Reader.corrupt .storedLengths

/-- Stored bytes; those before an early end count. -/
def stored : Nat → Array UInt8 → List Bool → Written
  | 0, out, bits => (out, .ok bits)
  | n + 1, out, bits =>
    match Reader.byte bits with
    | .error e => (out, .error e)
    | .ok (b, rest) => stored n (out.push b) rest

inductive BlockHead where
  | stored (length : Nat)
  | coded (c : BlockCodes)

/-- The head of a block, and whether the block is the last one. -/
def blockHead : Reader (Bool × BlockHead) := do
  let last ← Reader.bit
  match ← Reader.number 2 with
  | 0 => do pure (last, .stored (← storedLength))
  | 1 => pure (last, .coded fixedCodes)
  | 2 => do pure (last, .coded (← describedCodes))
  | _ => Reader.corrupt .blockType

/-- Blocks up to the last one.  The fuel is at least the number of bits. -/
def blocks : Nat → Array UInt8 → List Bool → Written
  | 0, out, _ => (out, .error .cutOff)
  | fuel + 1, out, bits =>
    match blockHead bits with
    | .error e => (out, .error e)
    | .ok ((last, head), rest) =>
      let (out, r) := match head with
        | .stored n => stored n out rest
        | .coded c => items c (rest.length + 1) out rest
      match r with
      | .error e => (out, .error e)
      | .ok rest => if last then (out, .ok rest) else blocks fuel out rest

def inflate (bits : List Bool) : Written := blocks (bits.length + 1) #[] bits

end Testbed.Compression
