/-!
# Checksums of data

The two checksums that guard compressed data.
-/

namespace Testbed.Compression

set_option autoImplicit false

/-- One step of the division behind the cyclic checksum. -/
def cyclicStep (r : UInt32) : UInt32 :=
  if r &&& 1 == 1 then (r >>> 1) ^^^ 0xEDB88320 else r >>> 1

def cyclicByte (r : UInt32) (b : UInt8) : UInt32 :=
  let r := r ^^^ b.toUInt32
  cyclicStep (cyclicStep (cyclicStep (cyclicStep (cyclicStep (cyclicStep (cyclicStep
    (cyclicStep r)))))))

/-- The cyclic checksum of thirty-two bits. -/
def cyclic (bytes : List UInt8) : Nat :=
  ((bytes.foldl cyclicByte 0xFFFFFFFF) ^^^ 0xFFFFFFFF).toNat

/-- The sums of the bytes and of their running sums, each modulo the greatest prime below `2 ^ 16`,
in one number. -/
def sums (bytes : List UInt8) : Nat :=
  let (a, b) := bytes.foldl (fun (a, b) x =>
    let a := (a + x.toNat) % 65521
    (a, (b + a) % 65521)) (1, 0)
  b * 65536 + a

end Testbed.Compression
