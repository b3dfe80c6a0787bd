/-!
# Bits of compressed data

Compressed data is read bit by bit, the lowest bit of a byte first.  Reading stops at the end of the
data, where more may come, or where the data makes no sense.
-/

namespace Testbed.Compression

set_option autoImplicit false

inductive Corruption where
  | headerCheck
  | unknownMethod
  | windowSize
  | headerFlags
  | headerChecksum
  | blockType
  | storedLengths
  | tooManySymbols
  | codeLengthCode
  | lengthRepeat
  | endOfBlockMissing
  | literalCode
  | distanceCode
  | unknownLiteral
  | unknownDistance
  | distanceTooFar
  | dataChecksum
  | dataLength
  /-- The data refers to a dictionary that is not there. -/
  | dictionaryMissing
  deriving DecidableEq, Repr

def Corruption.message : Corruption → String
  | dictionaryMissing => "Error 2 while decompressing data"
  | c => "Error -3 while decompressing data: " ++ match c with
    | headerCheck => "incorrect header check"
    | unknownMethod => "unknown compression method"
    | windowSize => "invalid window size"
    | headerFlags => "unknown header flags set"
    | headerChecksum => "header crc mismatch"
    | blockType => "invalid block type"
    | storedLengths => "invalid stored block lengths"
    | tooManySymbols => "too many length or distance symbols"
    | codeLengthCode => "invalid code lengths set"
    | lengthRepeat => "invalid bit length repeat"
    | endOfBlockMissing => "invalid code -- missing end-of-block"
    | literalCode => "invalid literal/lengths set"
    | distanceCode => "invalid distances set"
    | unknownLiteral => "invalid literal/length code"
    | unknownDistance => "invalid distance code"
    | distanceTooFar => "invalid distance too far back"
    | dataChecksum => "incorrect data check"
    | _ => "incorrect length check"

inductive Stop where
  | cutOff
  | corrupt (c : Corruption)
  deriving DecidableEq, Repr

abbrev Reader (α : Type) := StateT (List Bool) (Except Stop) α

namespace Reader

def corrupt {α : Type} (c : Corruption) : Reader α := throw (.corrupt c)

def bit : Reader Bool := fun
  | [] => .error .cutOff
  | b :: rest => .ok (b, rest)

/-- A number of some bits, the lowest first. -/
def number : Nat → Reader Nat
  | 0 => pure 0
  | n + 1 => do
    let b ← bit
    let high ← number n
    pure (2 * high + b.toNat)

/-- The bits that a byte has not used are left out. -/
def alignment : Reader Unit := fun bits => .ok ((), bits.drop (bits.length % 8))

def byte : Reader UInt8 := do pure (UInt8.ofNat (← number 8))

def bytes : Nat → Reader (List UInt8)
  | 0 => pure []
  | n + 1 => do
    let b ← byte
    pure (b :: (← bytes n))

end Reader

/-- The bits of a byte, the lowest first. -/
def bitsOfByte (b : UInt8) : List Bool :=
  (List.range 8).map fun i => b.toNat.testBit i

def bitsOf (bytes : List UInt8) : List Bool := bytes.flatMap bitsOfByte

end Testbed.Compression
