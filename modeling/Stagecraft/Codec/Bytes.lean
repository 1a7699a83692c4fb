import Stagecraft.Number.Power

/-!
Byte sequences and the two ways of writing a whole number with a fixed number of bytes.
-/

set_option autoImplicit false

namespace Stagecraft

abbrev Bytes := List UInt8

namespace Bytes

def ofNatLE : Nat → Nat → Bytes
  | 0, _ => []
  | k + 1, n => .ofNat n :: ofNatLE k (n / 256)

def toNatLE : Bytes → Nat
  | [] => 0
  | b :: r => b.toNat + 256 * toNatLE r

def ofNatBE (width n : Nat) : Bytes := (ofNatLE width n).reverse

def toNatBE (b : Bytes) : Nat := toNatLE b.reverse

theorem length_ofNatLE (k n : Nat) : (ofNatLE k n).length = k := by
  induction k generalizing n with
  | zero => rfl
  | succ k ih => simp [ofNatLE, ih]

theorem toNatLE_ofNatLE {k n : Nat} (h : n < 256 ^ k) : toNatLE (ofNatLE k n) = n := by
  induction k generalizing n with
  | zero =>
    simp only [Nat.pow_zero] at h
    simp [ofNatLE, toNatLE]; omega
  | succ k ih =>
    have hd : n / 256 < 256 ^ k := by
      rw [Nat.div_lt_iff_lt_mul (by decide), ← Nat.pow_succ]; exact h
    have hb : (UInt8.ofNat n).toNat = n % 256 := by simp
    rw [ofNatLE, toNatLE, ih hd, hb]; omega

def toIntLE (b : Bytes) : Int :=
  let n := toNatLE b
  if 2 * n < 256 ^ b.length then n else (n : Int) - 256 ^ b.length

def hasBit (b : UInt8) (i : Nat) : Bool := b.toNat / 2 ^ i % 2 == 1

def split? (n : Nat) (b : Bytes) : Option (Bytes × Bytes) :=
  let front := b.take n
  if front.length = n then some (front, b.drop n) else none

/-- `count` pieces of `n` bytes each from the front, none if there are too few bytes. -/
def pieces? (n : Nat) : Nat → Bytes → Option (List Bytes)
  | 0, _ => some []
  | count + 1, b => do
    let (front, rest) ← split? n b
    let more ← pieces? n count rest
    return front :: more

end Bytes

end Stagecraft
