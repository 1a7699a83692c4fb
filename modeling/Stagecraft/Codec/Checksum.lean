import Stagecraft.Codec.Bytes

/-!
Checksums of byte sequences: the 32-bit cyclic redundancy check, and the pair of sums modulo the
largest prime below 2 ^ 16.
-/

set_option autoImplicit false

namespace Stagecraft.Checksum

/-- One bit of the division by the reversed polynomial. -/
def crcShift (c : UInt32) : UInt32 :=
  if c &&& 1 = 1 then (c >>> 1) ^^^ 0xedb88320 else c >>> 1

def crcByte (c : UInt32) (b : UInt8) : UInt32 :=
  crcShift (crcShift (crcShift (crcShift (crcShift (crcShift (crcShift (crcShift
    (c ^^^ b.toUInt32))))))))

def crc (b : Bytes) : Nat := (b.foldl crcByte 0xffffffff ^^^ 0xffffffff).toNat

def adlerByte (s : Nat × Nat) (b : UInt8) : Nat × Nat :=
  let low := (s.1 + b.toNat) % 65521
  (low, (s.2 + low) % 65521)

def adler (b : Bytes) : Nat :=
  let s := b.foldl adlerByte (1, 0)
  s.2 * 65536 + s.1

end Stagecraft.Checksum
