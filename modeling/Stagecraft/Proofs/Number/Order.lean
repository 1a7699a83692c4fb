import Stagecraft.Proofs.Number.Whole

/-!
The order of floating-point numbers. Their positions on the number line decide every comparison, and
a sum lies where the exact sum of two positions is rounded to. Main statement: rounding keeps the
order of positions and moves no number of the format (`settle_mono`, `settle_of_representable`), so
adding something that is not positive never leads upwards.
-/

set_option autoImplicit false

namespace Stagecraft

namespace BinaryFormat

variable (f : BinaryFormat)

/-- Where a position is rounded to. What is too large to be finite stays at infinity. -/
def settle (s : Int) : Int :=
  Binary.signed (decide (s < 0)) (min (f.roundUnits s.natAbs 1) f.limit)

theorem settle_of_nonneg {s : Int} (h : 0 ≤ s) :
    f.settle s = (min (f.roundUnits s.natAbs 1) f.limit : Nat) := by
  have hs : ¬s < 0 := by omega
  simp only [settle, hs, decide_false]
  rfl

theorem settle_of_neg {s : Int} (h : s < 0) :
    f.settle s = -(min (f.roundUnits s.natAbs 1) f.limit : Nat) := by
  simp only [settle, h, decide_true]
  rfl

theorem settle_mono {s t : Int} (h : s ≤ t) : f.settle s ≤ f.settle t := by
  have hround {m n : Nat} (hmn : m ≤ n) : f.roundUnits m 1 ≤ f.roundUnits n 1 :=
    f.roundUnits_mono Nat.one_pos Nat.one_pos (Nat.mul_le_mul_right 1 hmn)
  by_cases hs : s < 0
  · rw [f.settle_of_neg hs]
    by_cases ht : t < 0
    · have := hround (show t.natAbs ≤ s.natAbs by omega)
      rw [f.settle_of_neg ht]
      omega
    · rw [f.settle_of_nonneg (by omega)]
      omega
  · have := hround (show s.natAbs ≤ t.natAbs by omega)
    rw [f.settle_of_nonneg (by omega), f.settle_of_nonneg (by omega)]
    omega

theorem settle_of_representable {s : Int} (h : f.Representable s.natAbs) : f.settle s = s := by
  rw [settle, f.roundUnits_one h.1, Nat.min_eq_left (Nat.le_of_lt h.2)]
  exact Binary.signed_natAbs s

end BinaryFormat

namespace Binary

variable {f : BinaryFormat} {x y : Binary f} {i j : Int}

theorem key_zero_literal : (0 : Scalar).key = some 0 := by
  rw [isWhole_zero.key_eq, Int.zero_mul]

theorem key_neg (h : x.key = some i) : x.neg.key = some (-i) := by
  cases x with
  | nan => cases h
  | infinite a =>
    cases h
    exact congrArg some (signed_not a _)
  | finite a u r =>
    cases h
    exact congrArg some (signed_not a u)

theorem key_abs (h : x.key = some i) : x.abs.key = some (i.natAbs : Int) := by
  cases x with
  | nan => cases h
  | infinite a =>
    cases h
    rw [natAbs_signed]
    rfl
  | finite a u r =>
    cases h
    rw [natAbs_signed]
    rfl

theorem exists_key_of_abs (h : x.abs.key = some i) : ∃ j, x.key = some j := by
  cases x with
  | nan => cases h
  | infinite a => exact ⟨_, rfl⟩
  | finite a u r => exact ⟨_, rfl⟩

theorem abs_neg (x : Binary f) : x.neg.abs = x.abs := by
  cases x <;> rfl

theorem isFinite_neg (x : Binary f) : x.neg.isFinite = x.isFinite := by
  cases x <;> rfl

/-- A position closer than infinity is that of a finite number, and needs no rounding. -/
theorem representable_of_key (h : x.key = some i) (hi : i.natAbs < f.limit) :
    x.isFinite = true ∧ f.Representable i.natAbs := by
  cases x with
  | nan => cases h
  | infinite a =>
    cases h
    rw [natAbs_signed] at hi
    exact absurd hi (Nat.lt_irrefl _)
  | finite a u r =>
    cases h
    rw [natAbs_signed]
    exact ⟨rfl, r⟩

theorem exists_key_of_isFinite (h : x.isFinite = true) : ∃ i, x.key = some i := by
  cases x with
  | nan => cases h
  | infinite a => cases h
  | finite a u r => exact ⟨_, rfl⟩

theorem key_round (a : Bool) (n d : Nat) :
    (round a n d : Binary f).key = some (signed a (Min.min (f.roundUnits n d) f.limit)) := by
  by_cases h : f.roundUnits n d < f.limit
  · obtain ⟨r, hr⟩ := round_eq_finite a h
    rw [hr, key, Nat.min_eq_left (Nat.le_of_lt h)]
  · rw [round, dif_neg h, key, Nat.min_eq_right (Nat.le_of_not_lt h)]

theorem key_zero (a : Bool) : (zero a : Binary f).key = some 0 := by
  have hzero : f.roundUnits 0 1 = 0 := f.roundUnits_of_le (Nat.zero_le _)
  rw [zero, key_round, hzero, Nat.zero_min]
  cases a <;> rfl

theorem key_add (hx : x.isFinite = true) (hy : y.isFinite = true) (hi : x.key = some i)
    (hj : y.key = some j) : (x + y).key = some (f.settle (i + j)) := by
  obtain _ | _ | ⟨a, u, r⟩ := x
  · cases hx
  · cases hx
  obtain _ | _ | ⟨b, v, s⟩ := y
  · cases hy
  · cases hy
  cases hi
  cases hj
  show (if signed a u + signed b v = 0 then zero (a && b)
    else ofUnits (signed a u + signed b v) : Binary f).key = _
  split
  next h =>
    have hrep : f.Representable (0 : Int).natAbs := ⟨Nat.dvd_zero _, Nat.two_pow_pos _⟩
    rw [key_zero, h, f.settle_of_representable hrep]
  next => rw [ofUnits, key_round, BinaryFormat.settle]

theorem key_add_le (hx : x.isFinite = true) (hy : y.isFinite = true) (hi : x.key = some i)
    (hj : y.key = some j) (hr : f.Representable i.natAbs) (h : j ≤ 0) :
    ∃ k, (x + y).key = some k ∧ k ≤ i := by
  refine ⟨_, key_add hx hy hi hj, ?_⟩
  calc f.settle (i + j)
      ≤ f.settle i := f.settle_mono (by omega)
    _ = i := f.settle_of_representable hr

theorem le_key_add (hx : x.isFinite = true) (hy : y.isFinite = true) (hi : x.key = some i)
    (hj : y.key = some j) (hr : f.Representable i.natAbs) (h : 0 ≤ j) :
    ∃ k, (x + y).key = some k ∧ i ≤ k := by
  refine ⟨_, key_add hx hy hi hj, ?_⟩
  calc i
      = f.settle i := (f.settle_of_representable hr).symm
    _ ≤ f.settle (i + j) := f.settle_mono (by omega)

end Binary

end Stagecraft
