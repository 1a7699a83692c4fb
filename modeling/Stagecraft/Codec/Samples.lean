import Stagecraft.Codec.Bytes

/-!
Samples of a fixed number of bits in a row of bytes, the first one in the highest bits.
-/

set_option autoImplicit false

namespace Stagecraft.Samples

def ofByte (depth : Nat) : Nat → UInt8 → List Nat
  | 0, _ => []
  | count + 1, b => b.toNat / 2 ^ (depth * count) % 2 ^ depth :: ofByte depth count b

/-- Samples of two bytes; one byte alone is a sample too. -/
def wide : Bytes → List Nat
  | hi :: lo :: r => (256 * hi.toNat + lo.toNat) :: wide r
  | [b] => [b.toNat]
  | [] => []

def unpack (depth : Nat) (b : Bytes) : List Nat :=
  if depth = 8 then b.map UInt8.toNat
  else if depth = 16 then wide b
  else b.flatMap (ofByte depth (8 / depth))

end Stagecraft.Samples
