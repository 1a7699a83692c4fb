import Stagecraft.Number.Power
import Stagecraft.Pattern.CharSet

/-!
The bytes of the characters of a set, as sequences of ranges of bytes: a text of one character is in
the set if its bytes are in the ranges of one sequence, each byte in its own.
-/

set_option autoImplicit false

namespace Stagecraft.CharSet

/-- The last characters that are written with one, two and three bytes. -/
def lengthEnds : List Nat := [0x7f, 0x7ff, 0xffff]

/-- Where a range of characters of one length has to be cut so that the last bytes of each piece
take all values or the bytes before them take one only; `m` counts the values of the last bytes. -/
def cut? (lo hi m : Nat) : Option Nat :=
  if lo / m = hi / m then none
  else if lo % m ≠ 0 then some (lo / m * m + m)
  else if hi % m ≠ m - 1 then some (hi / m * m)
  else none

def split? (lo hi : Nat) : Option Nat :=
  if lo < 0xe000 ∧ 0xd7ff < hi then some 0xe000
  else
    match lengthEnds.find? fun e => lo ≤ e ∧ e < hi with
    | some e => some (e + 1)
    | none => if hi < 128 then none else [2 ^ 6, 2 ^ 12, 2 ^ 18].findSome? (cut? lo hi)

/-- A range in pieces that are ranges byte by byte. The fuel bounds how often a piece is cut. -/
def cuts : Nat → Nat → Nat → List (Nat × Nat)
  | 0, _, _ => []
  | fuel + 1, lo, hi =>
    match split? lo hi with
    | some middle =>
      (if lo ≤ before middle then cuts fuel lo (before middle) else []) ++
        (if middle ≤ hi then cuts fuel middle hi else [])
    | none => [(lo, hi)]

def maxCuts : Nat := 16

abbrev ByteRange := UInt8 × UInt8

def byteRanges (r : Nat × Nat) : List ByteRange :=
  (String.utf8EncodeChar (.ofNat r.1)).zip (String.utf8EncodeChar (.ofNat r.2))

def encodings (s : CharSet) : List (List ByteRange) :=
  (s.ranges.flatMap fun r => cuts maxCuts r.1 r.2).map byteRanges

end Stagecraft.CharSet
