import Stagecraft.Codec.Checksum
import Stagecraft.Codec.Deflate

/-!
Compressed files: a header that may hold a name and other remarks, compressed data, and a check of
what they hold. What follows the check is left alone.
-/

set_option autoImplicit false

namespace Stagecraft.Gzip

def signature : Bytes := [0x1f, 0x8b]

def pastExtra? (b : Bytes) : Option Bytes := do
  let (length, b) ← b.split? 2
  let (_, b) ← b.split? length.toNatLE
  return b

def pastText? (b : Bytes) : Option Bytes :=
  match b.dropWhile (· ≠ 0) with
  | [] => none
  | _ :: b => some b

/-- Steps over the header. It names the method, has no flags without a meaning, and may check
itself. -/
def pastHeader? (all : Bytes) : Option Bytes := do
  let (front, b) ← all.split? 10
  let flags := front.getD 3 0
  if front.take 3 = signature ++ [8] ∧ flags < 32 then
    let b ← if Bytes.hasBit flags 2 then pastExtra? b else some b
    let b ← if Bytes.hasBit flags 3 then pastText? b else some b
    let b ← if Bytes.hasBit flags 4 then pastText? b else some b
    if Bytes.hasBit flags 1 then
      let (check, rest) ← b.split? 2
      let header := all.take (all.length - b.length)
      if check.toNatLE = Checksum.crc header % 2 ^ 16 then some rest else none
    else some b
  else none

def decode? (b : Bytes) : Option Bytes := do
  let (out, b) ← Deflate.inflateAll? (← pastHeader? b)
  let (check, b) ← b.split? 4
  let (length, _) ← b.split? 4
  let out := out.toList
  if check.toNatLE = Checksum.crc out ∧ length.toNatLE = out.length % 2 ^ 32 then some out
  else none

end Stagecraft.Gzip
