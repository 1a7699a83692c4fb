import Stagecraft.Number.Integral
import Stagecraft.Proofs.Number.Rounding

/-!
Whole numbers in single precision. As long as no result is larger than `2 ^ 24`, sums, differences
and comparisons of whole numbers are exact, and so is the way back to a machine word. A larger
number is rounded to another whole number (`ofNat_isWhole_rounded`), and stays what it is when zero
is added or taken away.
-/

set_option autoImplicit false

namespace Stagecraft

theorem mul_natCast_neg_iff {n : Int} {d : Nat} (hd : 0 < d) : n * d < 0 ↔ n < 0 := by
  have h : n * d < 0 * d ↔ n < 0 := Int.mul_lt_mul_right (Int.natCast_pos.2 hd)
  rwa [Int.zero_mul] at h

theorem Binary.signed_natAbs (s : Int) : signed (decide (s < 0)) s.natAbs = s := by
  unfold signed
  by_cases h : s < 0
  · simp only [h, decide_true, if_true]
    omega
  · simp only [h, decide_false, Bool.false_eq_true, if_false]
    omega

theorem Rounding.divide_mul (r : Rounding) (n : Int) {d : Nat} (hd : 0 < d) :
    r.divide (n * d) d = n := by
  have hd' : (d : Int) ≠ 0 := by omega
  cases r with
  | down => exact Int.mul_ediv_cancel n hd'
  | up => rw [divide, ← Int.neg_mul, Int.mul_ediv_cancel _ hd', Int.neg_neg]
  | halfAway =>
    have hq : (2 * (n * d).natAbs + d) / (2 * d) = n.natAbs := by
      rw [Int.natAbs_mul, Int.natAbs_natCast, Nat.mul_left_comm, Nat.mul_comm n.natAbs,
        Nat.mul_add_div (by omega), Nat.div_eq_of_lt (by omega), Nat.add_zero]
    simp only [divide, mul_natCast_neg_iff hd, hq]
    exact Binary.signed_natAbs n

theorem WordRange.clamp_of_mem {w : WordRange} {n : Int} (hlo : w.lo ≤ n) (hhi : n ≤ w.hi) :
    w.clamp n = n := by
  unfold clamp
  omega

theorem word32_clamp {n : Int} (hlo : 0 ≤ n) (hhi : n < 2 ^ 32) : word32.clamp n = n :=
  WordRange.clamp_of_mem hlo (Int.le_sub_one_of_lt hhi)

namespace Binary

section Comparison

variable {f : BinaryFormat} {x y : Binary f} {i j : Int}

theorem related_iff {r : Int → Int → Bool} :
    related r x y = true ↔ ∃ i j, x.key = some i ∧ y.key = some j ∧ r i j = true := by
  unfold related
  cases x.key <;> cases y.key <;> simp

theorem lt_iff : x < y ↔ ∃ i j, x.key = some i ∧ y.key = some j ∧ i < j := by
  refine related_iff.trans ?_
  simp only [decide_eq_true_eq]

theorem le_iff : x ≤ y ↔ ∃ i j, x.key = some i ∧ y.key = some j ∧ i ≤ j := by
  refine related_iff.trans ?_
  simp only [decide_eq_true_eq]

theorem lt_iff_of_key (hx : x.key = some i) (hy : y.key = some j) : x < y ↔ i < j := by
  simp [lt_iff, hx, hy]

theorem le_iff_of_key (hx : x.key = some i) (hy : y.key = some j) : x ≤ y ↔ i ≤ j := by
  simp [le_iff, hx, hy]

theorem signed_not (a : Bool) (u : Nat) : signed (!a) u = -signed a u := by
  cases a
  · rfl
  · exact (Int.neg_neg _).symm

end Comparison

/-- A finite number that stands for the whole number `n`. A zero may have either sign. -/
def IsWhole (x : Scalar) (n : Int) : Prop :=
  ∃ a u r, x = .finite a u r ∧ signed a u = n * single.one

theorem mul_one_lt_limit {k : Nat} (hk : k ≤ 2 ^ 24) : k * single.one < single.limit := by
  rw [single.limit_eq]
  exact Nat.mul_lt_mul_of_pos_right (Nat.lt_of_le_of_lt hk (by decide)) single.one_pos

theorem round_isWhole {a : Bool} {k : Nat} {n : Int} (hk : k ≤ 2 ^ 24) (h : signed a k = n) :
    (round a (k * single.one) 1 : Scalar).IsWhole n := by
  obtain ⟨r, hr⟩ := round_eq_whole (f := single) a hk (mul_one_lt_limit hk)
  refine ⟨a, _, r, hr, ?_⟩
  rw [← h]
  cases a
  · exact Int.natCast_mul _ _
  · rw [signed, signed, if_pos rfl, if_pos rfl, Int.natCast_mul, Int.neg_mul]

theorem zero_isWhole (a : Bool) : (zero a : Scalar).IsWhole 0 := by
  have h := round_isWhole (a := a) (k := 0) (n := 0) (by decide) (by cases a <;> rfl)
  rwa [Nat.zero_mul] at h

theorem ofNat_isWhole {n : Nat} (hn : n ≤ 2 ^ 24) : (ofNat n : Scalar).IsWhole n :=
  round_isWhole hn rfl

theorem isWhole_zero : (0 : Scalar).IsWhole 0 := ofNat_isWhole (Nat.zero_le _)

/-- A number that is too long for single precision becomes another whole number. -/
theorem ofNat_isWhole_rounded {n : Nat} (hn : n ≤ 2 ^ 32) :
    (ofNat n : Scalar).IsWhole (single.roundUnits n 1) := by
  have hunits : single.roundUnits (n * single.one) 1 = single.roundUnits n 1 * single.one :=
    single.roundUnits_mul_two_pow n single.scale
  have hle : single.roundUnits n 1 ≤ 2 ^ 32 := by
    have hmono : single.roundUnits n 1 ≤ single.roundUnits (2 ^ 32) 1 :=
      single.roundUnits_mono Nat.one_pos Nat.one_pos (Nat.mul_le_mul_right 1 hn)
    rwa [show single.roundUnits (2 ^ 32) 1 = 2 ^ 32 by decide +kernel] at hmono
  have hlt : single.roundUnits (n * single.one) 1 < single.limit := by
    rw [hunits, single.limit_eq]
    exact Nat.mul_lt_mul_of_pos_right (Nat.lt_of_le_of_lt hle (by decide)) single.one_pos
  obtain ⟨r, hr⟩ := round_eq_finite false hlt
  refine ⟨false, _, r, hr, ?_⟩
  rw [hunits]
  exact Int.natCast_mul _ _

theorem ofUnits_isWhole {n : Int} (hn : n.natAbs ≤ 2 ^ 24) :
    (ofUnits (n * single.one) : Scalar).IsWhole n := by
  rw [ofUnits, Int.natAbs_mul, Int.natAbs_natCast]
  simp only [mul_natCast_neg_iff single.one_pos]
  exact round_isWhole hn (signed_natAbs n)

theorem natAbs_signed (a : Bool) (u : Nat) : (signed a u).natAbs = u := by
  cases a <;> simp [signed]

/-- A whole number that single precision holds is not rounded. -/
theorem ofUnits_isWhole_of_held {z : Scalar} {n : Int} (hz : z.IsWhole n) :
    (ofUnits (n * single.one) : Scalar).IsWhole n := by
  obtain ⟨a, u, r, rfl, hu⟩ := hz
  have hround : single.roundUnits u 1 = u := single.roundUnits_one r.1
  have hsign : signed (decide (signed a u < 0)) u = signed a u := by
    have h := signed_natAbs (signed a u)
    rwa [natAbs_signed] at h
  obtain ⟨s, hs⟩ := round_eq_finite (f := single) (decide (signed a u < 0))
    (by rw [hround]; exact r.2)
  refine ⟨decide (signed a u < 0), single.roundUnits u 1, s, ?_, ?_⟩
  · rw [← hu, ofUnits, natAbs_signed]
    exact hs
  · rw [hround, hsign, hu]

namespace IsWhole

variable {x y : Scalar} {m n : Int}

theorem of_eq (h : x.IsWhole m) (hmn : m = n) : x.IsWhole n := hmn ▸ h

theorem neg (h : x.IsWhole n) : x.neg.IsWhole (-n) := by
  obtain ⟨a, u, r, rfl, hu⟩ := h
  refine ⟨!a, u, r, rfl, ?_⟩
  rw [Int.neg_mul, ← hu, signed_not]

theorem add_of_ofUnits (hx : x.IsWhole m) (hy : y.IsWhole n)
    (h : (ofUnits ((m + n) * single.one) : Scalar).IsWhole (m + n)) : (x + y).IsWhole (m + n) := by
  obtain ⟨a, u, r, rfl, hu⟩ := hx
  obtain ⟨b, v, s, rfl, hv⟩ := hy
  have hsum : signed a u + signed b v = (m + n) * single.one := by rw [hu, hv, Int.add_mul]
  show (if signed a u + signed b v = 0 then zero (a && b)
    else ofUnits (signed a u + signed b v) : Scalar).IsWhole (m + n)
  rw [hsum]
  split
  · have hzero : m + n = 0 := by
      rcases Int.mul_eq_zero.1 ‹_› with h₀ | h₀
      · exact h₀
      · exact absurd (Int.natCast_eq_zero.1 h₀) (Nat.ne_of_gt single.one_pos)
    rw [hzero]
    exact zero_isWhole _
  · exact h

theorem add (hx : x.IsWhole m) (hy : y.IsWhole n) (h : (m + n).natAbs ≤ 2 ^ 24) :
    (x + y).IsWhole (m + n) :=
  hx.add_of_ofUnits hy (ofUnits_isWhole h)

theorem zero_add (h : x.IsWhole n) (hy : y.IsWhole 0) : (y + x).IsWhole n := by
  have hsum := hy.add_of_ofUnits h (ofUnits_isWhole_of_held (h.of_eq (Int.zero_add n).symm))
  exact hsum.of_eq (Int.zero_add n)

theorem sub (hx : x.IsWhole m) (hy : y.IsWhole n) (h : (m - n).natAbs ≤ 2 ^ 24) :
    (x - y).IsWhole (m - n) :=
  hx.add hy.neg h

theorem sub_zero (h : x.IsWhole n) (hy : y.IsWhole 0) : (x - y).IsWhole n := by
  have hsum := h.add_of_ofUnits hy.neg (ofUnits_isWhole_of_held (h.of_eq (Int.add_zero n).symm))
  exact hsum.of_eq (Int.add_zero n)

theorem isNan_eq (h : x.IsWhole n) : x.isNan = false := by
  obtain ⟨a, u, r, rfl, _⟩ := h
  rfl

theorem isFinite_eq (h : x.IsWhole n) : x.isFinite = true := by
  obtain ⟨a, u, r, rfl, _⟩ := h
  rfl

theorem key_eq (h : x.IsWhole n) : x.key = some (n * single.one) := by
  obtain ⟨a, u, r, rfl, hu⟩ := h
  rw [key, hu]

theorem lt_iff (hx : x.IsWhole m) (hy : y.IsWhole n) : x < y ↔ m < n := by
  rw [lt_iff_of_key hx.key_eq hy.key_eq]
  exact Int.mul_lt_mul_right (Int.natCast_pos.2 single.one_pos)

theorem le_iff (hx : x.IsWhole m) (hy : y.IsWhole n) : x ≤ y ↔ m ≤ n := by
  rw [le_iff_of_key hx.key_eq hy.key_eq]
  exact Int.mul_le_mul_right (Int.natCast_pos.2 single.one_pos)

theorem max (hx : x.IsWhole m) (hy : y.IsWhole n) : (x.max y).IsWhole (Max.max m n) := by
  simp only [Binary.max, hx.isNan_eq, hy.isNan_eq, Bool.false_eq_true, if_false, hx.lt_iff hy]
  split
  · rwa [Int.max_eq_right (by omega)]
  · rwa [Int.max_eq_left (by omega)]

theorem min (hx : x.IsWhole m) (hy : y.IsWhole n) : (x.min y).IsWhole (Min.min m n) := by
  simp only [Binary.min, hx.isNan_eq, hy.isNan_eq, Bool.false_eq_true, if_false, hy.lt_iff hx]
  split
  · rwa [Int.min_eq_right (by omega)]
  · rwa [Int.min_eq_left (by omega)]

theorem toWord_eq (h : x.IsWhole n) (r : Rounding) (w : WordRange) : x.toWord r w = w.clamp n := by
  obtain ⟨a, u, s, rfl, hu⟩ := h
  rw [toWord, hu, Rounding.divide_mul r n single.one_pos]

end IsWhole

end Binary

end Stagecraft
