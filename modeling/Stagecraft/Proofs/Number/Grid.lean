import Stagecraft.Proofs.Number.Whole

/-!
Numbers on a grid in single precision. A number that is at most `2 ^ 24` steps of a power of two away
from zero is held exactly, so sums, products and quotients that stay on such a grid are not rounded.
Halves are on a grid, too, and can be told from the whole numbers next to them.
-/

set_option autoImplicit false

namespace Stagecraft.Binary

theorem finite_mul {f : BinaryFormat} {a b : Bool} {u v : Nat} (r : f.Representable u)
    (s : f.Representable v) :
    (finite a u r * finite b v s : Binary f) = round (a != b) (u * v) f.one := rfl

theorem finite_div {f : BinaryFormat} {a b : Bool} {u v : Nat} (r : f.Representable u)
    (s : f.Representable v) (hv : 0 < v) :
    (finite a u r / finite b v s : Binary f) = round (a != b) (u * f.one) v :=
  if_neg (Nat.ne_of_gt hv)

/-- A finite number, not negative, that is `k` steps of `2 ^ e` units. -/
def IsMultiple (x : Scalar) (k e : Nat) : Prop := ∃ r, x = .finite false (k * 2 ^ e) r

theorem round_isMultiple {k e d : Nat} (hk : k ≤ 2 ^ 24) (he : e ≤ single.scale) (hd : 0 < d) :
    (round false (k * 2 ^ e * d) d : Scalar).IsMultiple k e := by
  have hunits : single.roundUnits (k * 2 ^ e * d) d = k * 2 ^ e := by
    have h := single.roundUnits_mul_right (k * 2 ^ e) 1 hd
    rw [Nat.one_mul] at h
    rw [h, single.roundUnits_one (single.gap_dvd_mul_pow hk)]
  have hlt : k * 2 ^ e < single.limit := by
    calc k * 2 ^ e
        ≤ k * single.one := Nat.mul_le_mul_left k (Nat.pow_le_pow_right (by decide) he)
      _ < single.limit := mul_one_lt_limit hk
  obtain ⟨r, hr⟩ := round_eq_finite (f := single) false (by rw [hunits]; exact hlt)
  simp only [hunits] at hr
  exact ⟨_, hr⟩

theorem ofNat_isMultiple {n : Nat} (hn : n ≤ 2 ^ 24) :
    (ofNat n : Scalar).IsMultiple n single.scale := by
  have h := round_isMultiple hn (Nat.le_refl single.scale) Nat.one_pos
  rwa [Nat.mul_one] at h

namespace IsMultiple

variable {x y : Scalar} {k l m e : Nat}

theorem finer (h : x.IsMultiple k (e + 1)) : x.IsMultiple (2 * k) e := by
  obtain ⟨r, rfl⟩ := h
  have hunits : k * 2 ^ (e + 1) = 2 * k * 2 ^ e := by
    rw [Nat.pow_succ', Nat.mul_left_comm, Nat.mul_assoc]
  simp only [hunits]
  exact ⟨_, rfl⟩

theorem add (hx : x.IsMultiple k e) (hy : y.IsMultiple l e) (h : k + l ≤ 2 ^ 24)
    (he : e ≤ single.scale) : (x + y).IsMultiple (k + l) e := by
  obtain ⟨r, rfl⟩ := hx
  obtain ⟨s, rfl⟩ := hy
  have hround := round_isMultiple h he Nat.one_pos
  rw [Nat.mul_one] at hround
  have hsum : signed false (k * 2 ^ e) + signed false (l * 2 ^ e) = ((k + l) * 2 ^ e : Nat) := by
    rw [Nat.add_mul]
    rfl
  show (if signed false (k * 2 ^ e) + signed false (l * 2 ^ e) = 0 then zero (false && false)
    else ofUnits (signed false (k * 2 ^ e) + signed false (l * 2 ^ e)) : Scalar).IsMultiple _ _
  rw [hsum]
  split
  next hzero =>
    rw [Int.natCast_eq_zero.1 hzero] at hround
    exact hround
  next =>
    have hsign : ¬(((k + l) * 2 ^ e : Nat) : Int) < 0 := by omega
    simp only [ofUnits, hsign, decide_false, Int.natAbs_natCast]
    exact hround

theorem mul (hx : x.IsMultiple k e) (hy : y.IsMultiple l single.scale) (h : k * l ≤ 2 ^ 24)
    (he : e ≤ single.scale) : (x * y).IsMultiple (k * l) e := by
  obtain ⟨r, rfl⟩ := hx
  obtain ⟨s, rfl⟩ := hy
  have hunits : k * 2 ^ e * (l * 2 ^ single.scale) = k * l * 2 ^ e * single.one := by
    rw [← Nat.mul_assoc, Nat.mul_right_comm k]
    rfl
  rw [finite_mul, hunits]
  exact round_isMultiple h he single.one_pos

theorem div (hx : x.IsMultiple k single.scale) (hy : y.IsMultiple l single.scale) (hl : 0 < l)
    (h : k * single.one = m * 2 ^ e * l) (hm : m ≤ 2 ^ 24) (he : e ≤ single.scale) :
    (x / y).IsMultiple m e := by
  obtain ⟨r, rfl⟩ := hx
  obtain ⟨s, rfl⟩ := hy
  have hpos : 0 < l * 2 ^ single.scale := Nat.mul_pos hl (Nat.two_pow_pos _)
  have hunits : k * 2 ^ single.scale * single.one = m * 2 ^ e * (l * 2 ^ single.scale) := by
    rw [Nat.mul_right_comm, h, Nat.mul_assoc]
  rw [finite_div _ _ hpos, hunits]
  exact round_isMultiple hm he hpos

theorem toWord_down (h : x.IsMultiple k e) (he : e + 1 = single.scale) (w : WordRange) :
    x.toWord .down w = w.clamp (k / 2 : Nat) := by
  obtain ⟨r, rfl⟩ := h
  have hone : single.one = 2 * 2 ^ e := by rw [BinaryFormat.one, ← he, Nat.pow_succ']
  have hdiv : k * 2 ^ e / single.one = k / 2 := by
    rw [hone, Nat.mul_div_mul_right _ _ (Nat.two_pow_pos e)]
  rw [← hdiv]
  rfl

end IsMultiple

end Stagecraft.Binary
