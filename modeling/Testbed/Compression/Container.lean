import Testbed.Compression.Checksum
import Testbed.Compression.Inflate

/-!
# Containers of deflated data

Deflated data comes bare, with a short header and a checksum, or as the members of an archive with
headers, checksums and lengths.  Data that ends early gives all bytes up to its end.
-/

namespace Testbed.Compression

set_option autoImplicit false

/-- Unpacked bytes, and what is left when the container has ended. -/
structure Unpacked where
  bytes : List UInt8
  rest : Option (List UInt8)

abbrev Unpacking := Except Corruption Unpacked

/-- The bytes that bits at the start of a byte make up. -/
def bytesOf : List Bool → List UInt8
  | a :: b :: c :: d :: e :: f :: g :: h :: rest =>
    let low := a.toNat + 2 * b.toNat + 4 * c.toNat + 8 * d.toNat
    let high := e.toNat + 2 * f.toNat + 4 * g.toNat + 8 * h.toNat
    UInt8.ofNat (low + 16 * high) :: bytesOf rest
  | _ => []

/-- The bytes of deflated data and of what follows it, which depends on them. -/
def unpackWith (trailer : List UInt8 → Reader Unit) (bits : List Bool) : Unpacking :=
  let (out, r) := inflate bits
  let bytes := out.toList
  let ended := r.bind fun bits => ((do Reader.alignment; trailer bytes : Reader Unit) bits)
  match ended with
  | .ok (_, rest) => .ok ⟨bytes, some (bytesOf rest)⟩
  | .error .cutOff => .ok ⟨bytes, none⟩
  | .error (.corrupt c) => .error c

def unpackAfter (header : Reader Unit) (trailer : List UInt8 → Reader Unit)
    (data : List UInt8) : Unpacking :=
  match header (bitsOf data) with
  | .ok (_, bits) => unpackWith trailer bits
  | .error .cutOff => .ok ⟨[], none⟩
  | .error (.corrupt c) => .error c

def unpackBare (data : List UInt8) : Unpacking :=
  unpackAfter (pure ()) (fun _ => pure ()) data

def deflateMethod : Nat := 8

/-- The short header: a method, a window size, a flag for a dictionary, and a check. -/
def shortHeader : Reader Unit := do
  let first ← Reader.number 8
  let second ← Reader.number 8
  if (first * 256 + second) % 31 != 0 then Reader.corrupt .headerCheck
  if first % 16 != deflateMethod then Reader.corrupt .unknownMethod
  if first / 16 > 7 then Reader.corrupt .windowSize
  if second.testBit 5 then
    let _ ← Reader.number 32
    Reader.corrupt .dictionaryMissing

/-- A number of four bytes, the highest first. -/
def bigNumber : Reader Nat := do
  pure ((← Reader.bytes 4).foldl (fun n b => 256 * n + b.toNat) 0)

def unpackShort (data : List UInt8) : Unpacking :=
  unpackAfter shortHeader (fun bytes => do
    if (← bigNumber) != sums bytes then Reader.corrupt .dataChecksum) data

/-- Bytes up to a zero byte.  The fuel is at least the number of bytes. -/
def zeroEnded : Nat → Reader (List UInt8)
  | 0 => throw .cutOff
  | fuel + 1 => do
    let b ← Reader.byte
    if b == 0 then pure [b] else pure (b :: (← zeroEnded fuel))

/-- The parts of a member's header whose presence is told by flags, with all bytes read so far. -/
def memberHeader : Reader Unit := do
  let magic ← Reader.bytes 2
  if magic != [0x1F, 0x8B] then Reader.corrupt .headerCheck
  let method ← Reader.byte
  let flags ← Reader.byte
  if method.toNat != deflateMethod then Reader.corrupt .unknownMethod
  if flags.toNat ≥ 32 then Reader.corrupt .headerFlags
  let fuel := (← get).length
  let has (i : Nat) := flags.toNat.testBit i
  let times ← Reader.bytes 6
  let extra ← if has 2 then do
      let size ← Reader.bytes 2
      let length := size.foldr (fun b n => 256 * n + b.toNat) 0
      pure (size ++ (← Reader.bytes length))
    else pure []
  let name ← if has 3 then zeroEnded fuel else pure []
  let comment ← if has 4 then zeroEnded fuel else pure []
  if has 1 then
    let sum ← Reader.number 16
    let all := magic ++ [method, flags] ++ times ++ extra ++ name ++ comment
    if sum != cyclic all % 65536 then Reader.corrupt .headerChecksum

def unpackMember (data : List UInt8) : Unpacking :=
  unpackAfter memberHeader (fun bytes => do
    if (← Reader.number 32) != cyclic bytes then Reader.corrupt .dataChecksum
    if (← Reader.number 32) != bytes.length % Nat.pow 2 32 then Reader.corrupt .dataLength) data

/-- The members after the first one; anything else ends an archive.  The fuel is at least the number
of bytes. -/
def moreMembers : Nat → List UInt8 → List UInt8
  | 0, _ => []
  | fuel + 1, data =>
    if data.isEmpty then []
    else match unpackMember data with
      | .error _ => []
      | .ok ⟨bytes, none⟩ => bytes
      | .ok ⟨bytes, some rest⟩ => bytes ++ moreMembers fuel rest

def unpackArchive (data : List UInt8) : Except Corruption (List UInt8) := do
  let first ← unpackMember data
  pure (first.bytes ++ (first.rest.map (moreMembers data.length)).getD [])

/-- Deflated data with or without a short header. -/
def unpackDeflated (data : List UInt8) : Except Corruption (List UInt8) :=
  match unpackShort data with
  | .ok u => .ok u.bytes
  | .error _ => (unpackBare data).map (·.bytes)

end Testbed.Compression
