import Stagecraft.Codec.Checksum
import Stagecraft.Codec.Deflate

/-!
Compressed data between a two-byte header and a checksum. Reading checks the header and leaves the
checksum alone, and stops when it has as many bytes as are wanted.
-/

set_option autoImplicit false

namespace Stagecraft.Zlib

/-- The header names the method and the window, is a multiple of 31, and asks for no dictionary. -/
def validHeader (method flags : UInt8) : Bool :=
  method.toNat % 16 == 8 && method.toNat / 16 ≤ 7 && (256 * method.toNat + flags.toNat) % 31 == 0 &&
    flags.toNat / 32 % 2 == 0

def decode? (wanted : Nat) : Bytes → Option (Array UInt8)
  | method :: flags :: rest =>
    if validHeader method flags then Deflate.inflate? wanted rest else none
  | _ => some #[]

/-- The first bytes from pieces that follow each other, `seen` being those before. Pieces are taken
in until there are `least` bytes, and no more bytes than `wanted` are made. -/
def decodePieces? (least wanted : Nat) (seen : Bytes) : List Bytes → Option (Array UInt8)
  | [] => none
  | piece :: rest => do
    let out ← decode? wanted (seen ++ piece)
    if least ≤ out.size then some out else decodePieces? least wanted (seen ++ piece) rest

def encode (b : Bytes) : Bytes :=
  0x78 :: 0x01 :: (Deflate.store b ++ Bytes.ofNatBE 4 (Checksum.adler b))

end Stagecraft.Zlib
