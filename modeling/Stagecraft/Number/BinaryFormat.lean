import Stagecraft.Number.Nearest
import Stagecraft.Number.Power

/-!
Binary floating-point formats. A finite value of a format is a whole number of the format's
smallest unit, so representability and rounding are facts about `Nat`. Main statement: a rounded
number of units has no more significant bits than the format keeps.
-/

set_option autoImplicit false

namespace Stagecraft

/-- Finite values are multiples of `2 ^ (-scale)` that have at most `precision` significant bits
and lie below `2 ^ bound`. -/
structure BinaryFormat where
  precision : Nat
  scale : Nat
  bound : Nat
  precision_pos : 0 < precision := by decide

def single : BinaryFormat := ⟨24, 149, 128, by decide⟩

def double : BinaryFormat := ⟨53, 1074, 1024, by decide⟩

namespace BinaryFormat

variable (f : BinaryFormat)

def one : Nat := 2 ^ f.scale

def limit : Nat := 2 ^ (f.bound + f.scale)

/-- The distance between neighbouring values that are as large as `q` units. -/
def gap (q : Nat) : Nat := 2 ^ (q.log2 + 1 - f.precision)

theorem gap_pos (q : Nat) : 0 < f.gap q := Nat.two_pow_pos _

def Representable (u : Nat) : Prop := f.gap u ∣ u ∧ u < f.limit

instance (u : Nat) : Decidable (f.Representable u) := inferInstanceAs (Decidable (_ ∧ _))

/-- The quotient `n / d` of units, to the nearest multiple of the gap at its size; a tie goes to
the even multiple. -/
def roundUnits (n d : Nat) : Nat :=
  nearest n (d * f.gap (n / d)) * f.gap (n / d)

theorem gap_dvd_mul_pow {k e : Nat} (hk : k ≤ 2 ^ f.precision) :
    f.gap (k * 2 ^ e) ∣ k * 2 ^ e := by
  have hp := f.precision_pos
  unfold gap
  rcases Nat.lt_or_eq_of_le hk with h | h
  · refine Nat.dvd_trans (Nat.pow_dvd_pow 2 ?_) (Nat.dvd_mul_left (2 ^ e) k)
    by_cases h₀ : k * 2 ^ e = 0
    · simp [h₀]; omega
    · have h₁ : k * 2 ^ e < 2 ^ (f.precision + e) := by
        rw [Nat.pow_add]; exact Nat.mul_lt_mul_of_pos_right h (Nat.two_pow_pos e)
      have h₂ := (Nat.log2_lt h₀).2 h₁
      omega
  · rw [h, ← Nat.pow_add, Nat.log2_two_pow]
    exact Nat.pow_dvd_pow 2 (by omega)

theorem nearest_gap_le (n d : Nat) :
    nearest n (d * f.gap (n / d)) ≤ 2 ^ f.precision := by
  have h₁ := nearest_le n (d * f.gap (n / d))
  have h₂ : n / (d * f.gap (n / d)) < 2 ^ f.precision := by
    rw [← Nat.div_div_eq_div_mul, Nat.div_lt_iff_lt_mul (f.gap_pos _), gap, ← Nat.pow_add]
    exact Nat.lt_of_lt_of_le Nat.lt_log2_self (Nat.pow_le_pow_right (by decide) (by omega))
  omega

theorem gap_dvd_roundUnits (n d : Nat) : f.gap (f.roundUnits n d) ∣ f.roundUnits n d :=
  f.gap_dvd_mul_pow (f.nearest_gap_le n d)

end BinaryFormat

end Stagecraft
