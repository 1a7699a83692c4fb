import Stagecraft.Number.Binary

/-!
Whole numbers from floating-point ones. The result is clamped to the range asked for, and what is
not a number gives zero.
-/

set_option autoImplicit false

namespace Stagecraft

inductive Rounding where
  | down
  | up
  | halfAway
  deriving DecidableEq

def Rounding.divide (r : Rounding) (s : Int) (d : Nat) : Int :=
  match r with
  | .down => s / d
  | .up => -(-s / d)
  | .halfAway => Binary.signed (decide (s < 0)) ((2 * s.natAbs + d) / (2 * d))

structure WordRange where
  lo : Int
  hi : Int

def WordRange.clamp (w : WordRange) (i : Int) : Int := max w.lo (min w.hi i)

def word32 : WordRange := ⟨0, 2 ^ 32 - 1⟩

def signedWord64 : WordRange := ⟨-2 ^ 63, 2 ^ 63 - 1⟩

def Binary.toWord {f : BinaryFormat} (r : Rounding) (w : WordRange) : Binary f → Int
  | .nan => 0
  | .infinite a => if a then w.lo else w.hi
  | .finite a u _ => w.clamp (r.divide (Binary.signed a u) f.one)

end Stagecraft
