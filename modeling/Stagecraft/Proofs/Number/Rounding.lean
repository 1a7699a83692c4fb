import Stagecraft.Number.Binary

/-!
Rounding to a binary format keeps what needs no rounding, and it never passes a number that the
format holds: a quotient at most that large is rounded to at most as much. Main statements: rounding
keeps the order of quotients (`roundUnits_mono`) and moves a quotient by half a gap at most
(`roundUnits_near`).
-/

set_option autoImplicit false

namespace Stagecraft

theorem nearest_mul_self {k d : Nat} (hd : 0 < d) : nearest (k * d) d = k := by
  simp [nearest, hd, Nat.mul_div_cancel k hd]

theorem nearest_mul_right (n d : Nat) {k : Nat} (hk : 0 < k) :
    nearest (n * k) (d * k) = nearest n d := by
  have hdouble : 2 * (n % d * k) = 2 * (n % d) * k := (Nat.mul_assoc _ _ _).symm
  simp only [nearest, Nat.mul_div_mul_right n d hk, Nat.mul_mod_mul_right, hdouble,
    Nat.mul_lt_mul_right hk]

theorem log2_mul_two_pow {n : Nat} (hn : n ≠ 0) (e : Nat) : (n * 2 ^ e).log2 = n.log2 + e := by
  induction e with
  | zero => simp
  | succ e ih =>
    have hne : n * 2 ^ e ≠ 0 := Nat.mul_ne_zero hn (Nat.ne_of_gt (Nat.two_pow_pos e))
    rw [Nat.pow_succ', Nat.mul_left_comm, Nat.log2_two_mul hne, ih, Nat.add_assoc]

/-- What is rounded to at most `k` lies below the middle between `k` and `k + 1`, or in the middle
if `k` is even. -/
theorem nearest_le_iff {n d k : Nat} (hd : 0 < d) :
    nearest n d ≤ k ↔ 2 * n < (2 * k + 1) * d ∨ 2 * n = (2 * k + 1) * d ∧ k % 2 = 0 := by
  have hq := Nat.div_add_mod n d
  have hr := Nat.mod_lt n hd
  have hmid : (2 * k + 1) * d = 2 * (d * k) + d := by
    rw [Nat.add_mul, Nat.mul_assoc, Nat.mul_comm k, Nat.one_mul]
  rcases Nat.lt_trichotomy (n / d) k with hlt | heq | hgt
  · have hle := nearest_le n d
    have hk : d * (n / d) + d ≤ d * k := by
      rw [← Nat.mul_succ]
      exact Nat.mul_le_mul_left d hlt
    omega
  · subst heq
    have hm := Nat.mod_two_eq_zero_or_one (n / d)
    unfold nearest
    split
    · omega
    · split <;> omega
  · have hge := le_nearest n d
    have hk : d * k + d ≤ d * (n / d) := by
      rw [← Nat.mul_succ]
      exact Nat.mul_le_mul_left d hgt
    omega

theorem nearest_le_of_le_mul {n d k : Nat} (hd : 0 < d) (h : n ≤ d * k) : nearest n d ≤ k := by
  have hmid : (2 * k + 1) * d = 2 * (d * k) + d := by
    rw [Nat.add_mul, Nat.mul_assoc, Nat.mul_comm k, Nat.one_mul]
  exact (nearest_le_iff hd).2 (.inl (by omega))

theorem nearest_mono {n d n' d' : Nat} (hd : 0 < d) (hd' : 0 < d') (h : n * d' ≤ n' * d) :
    nearest n d ≤ nearest n' d' := by
  generalize hk : nearest n' d' = k
  have hk' := (nearest_le_iff hd').1 (Nat.le_of_eq hk)
  refine (nearest_le_iff hd).2 ?_
  have hcross : 2 * n * d' ≤ 2 * n' * d := by
    rw [Nat.mul_assoc, Nat.mul_assoc]
    exact Nat.mul_le_mul_left 2 h
  have hcomm : (2 * k + 1) * d' * d = (2 * k + 1) * d * d' := Nat.mul_right_comm _ _ _
  rcases hk' with hlt | ⟨heq, heven⟩
  · have h₁ := Nat.mul_lt_mul_of_pos_right hlt hd
    exact .inl (Nat.lt_of_mul_lt_mul_right (a := d') (by omega))
  · rw [heq] at hcross
    have h₁ : 2 * n ≤ (2 * k + 1) * d := Nat.le_of_mul_le_mul_right (by omega) hd'
    exact (Nat.lt_or_eq_of_le h₁).imp_right (⟨·, heven⟩)

theorem nearest_pos_iff {n d : Nat} (hd : 0 < d) : 0 < nearest n d ↔ d < 2 * n := by
  have h := nearest_le_iff (n := n) (k := 0) hd
  omega

namespace BinaryFormat

variable (f : BinaryFormat)

theorem roundUnits_le {n d b : Nat} (hd : 0 < d) (hb : f.gap (n / d) ∣ b) (h : n ≤ d * b) :
    f.roundUnits n d ≤ b := by
  obtain ⟨k, rfl⟩ := hb
  have hg := f.gap_pos (n / d)
  have hk : nearest n (d * f.gap (n / d)) ≤ k :=
    nearest_le_of_le_mul (Nat.mul_pos hd hg) (by rwa [Nat.mul_assoc])
  calc f.roundUnits n d
      = nearest n (d * f.gap (n / d)) * f.gap (n / d) := rfl
    _ ≤ k * f.gap (n / d) := Nat.mul_le_mul_right _ hk
    _ = f.gap (n / d) * k := Nat.mul_comm _ _

theorem le_roundUnits {n d b : Nat} (hd : 0 < d) (hb : f.gap (n / d) ∣ b) (h : d * b ≤ n) :
    b ≤ f.roundUnits n d := by
  obtain ⟨k, rfl⟩ := hb
  have hg := f.gap_pos (n / d)
  have hk : k ≤ n / (d * f.gap (n / d)) := by
    rw [Nat.le_div_iff_mul_le (Nat.mul_pos hd hg), Nat.mul_comm k, Nat.mul_assoc]
    exact h
  calc f.gap (n / d) * k
      = k * f.gap (n / d) := Nat.mul_comm _ _
    _ ≤ nearest n (d * f.gap (n / d)) * f.gap (n / d) :=
        Nat.mul_le_mul_right _ (Nat.le_trans hk (le_nearest _ _))
    _ = f.roundUnits n d := rfl

theorem gap_dvd_two_pow {q e : Nat} (h : q.log2 ≤ e) : f.gap q ∣ 2 ^ e := by
  have hp := f.precision_pos
  exact Nat.pow_dvd_pow 2 (by omega)

theorem roundUnits_mono {n d n' d' : Nat} (hd : 0 < d) (hd' : 0 < d') (h : n * d' ≤ n' * d) :
    f.roundUnits n d ≤ f.roundUnits n' d' := by
  have hq : n / d ≤ n' / d' := by
    rw [Nat.le_div_iff_mul_le hd', ← Nat.mul_le_mul_right_iff hd]
    calc n / d * d' * d
        = n / d * d * d' := Nat.mul_right_comm _ _ _
      _ ≤ n * d' := Nat.mul_le_mul_right _ (Nat.div_mul_le_self n d)
      _ ≤ n' * d := h
  have hlog : (n / d).log2 ≤ (n' / d').log2 := by
    by_cases h₀ : n / d = 0
    · simp [h₀]
    · have h₁ : n' / d' ≠ 0 := Nat.ne_of_gt (Nat.lt_of_lt_of_le (Nat.pos_of_ne_zero h₀) hq)
      exact (Nat.le_log2 h₁).2 (Nat.le_trans (Nat.log2_self_le h₀) hq)
  rcases Nat.lt_or_eq_of_le hlog with hlt | heq
  · -- a power of two lies between the quotients, and both grids hold it
    have hne : n' / d' ≠ 0 := by
      intro h₀
      rw [h₀, Nat.log2_zero] at hlt
      exact Nat.not_lt_zero _ hlt
    have hle : 2 ^ (n' / d').log2 ≤ n' / d' := Nat.log2_self_le hne
    have hlow : n / d < 2 ^ (n' / d').log2 :=
      Nat.lt_of_lt_of_le Nat.lt_log2_self (Nat.pow_le_pow_right (by decide) hlt)
    have h₁ : f.roundUnits n d ≤ 2 ^ (n' / d').log2 :=
      f.roundUnits_le hd (f.gap_dvd_two_pow (Nat.le_of_lt hlt))
        (by rw [Nat.mul_comm]; exact Nat.le_of_lt (Nat.lt_mul_of_div_lt hlow hd))
    have h₂ : 2 ^ (n' / d').log2 ≤ f.roundUnits n' d' :=
      f.le_roundUnits hd' (f.gap_dvd_two_pow (Nat.le_refl _))
        (by rw [Nat.mul_comm]; exact (Nat.le_div_iff_mul_le hd').1 hle)
    exact Nat.le_trans h₁ h₂
  · have hgap : f.gap (n / d) = f.gap (n' / d') := by rw [gap, gap, heq]
    have hg := f.gap_pos (n' / d')
    unfold roundUnits
    rw [hgap]
    refine Nat.mul_le_mul_right _ (nearest_mono (Nat.mul_pos hd hg) (Nat.mul_pos hd' hg) ?_)
    rw [← Nat.mul_assoc, ← Nat.mul_assoc]
    exact Nat.mul_le_mul_right _ h

theorem roundUnits_one {u : Nat} (h : f.gap u ∣ u) : f.roundUnits u 1 = u := by
  obtain ⟨k, hk⟩ := h
  have hg := f.gap_pos u
  have hn : nearest u (f.gap u) = k := by
    conv => lhs; arg 1; rw [hk, Nat.mul_comm]
    exact nearest_mul_self hg
  simp [roundUnits, hn, Nat.mul_comm k, ← hk]

theorem roundUnits_of_le {n : Nat} (hn : n ≤ 2 ^ f.precision) : f.roundUnits n 1 = n := by
  refine f.roundUnits_one ?_
  have h := f.gap_dvd_mul_pow (e := 0) hn
  rwa [Nat.pow_zero, Nat.mul_one] at h

/-- A number and a multiple of it by a power of two are rounded alike. -/
theorem roundUnits_mul_two_pow (n e : Nat) :
    f.roundUnits (n * 2 ^ e) 1 = f.roundUnits n 1 * 2 ^ e := by
  by_cases hn : n ≤ 2 ^ f.precision
  · rw [f.roundUnits_of_le hn, f.roundUnits_one (f.gap_dvd_mul_pow hn)]
  · have hlt : 2 ^ f.precision < n := Nat.lt_of_not_le hn
    have hpos : n ≠ 0 := Nat.ne_of_gt (Nat.lt_of_le_of_lt (Nat.zero_le _) hlt)
    have hlog : f.precision ≤ n.log2 := (Nat.le_log2 hpos).2 (Nat.le_of_lt hlt)
    have hgap : f.gap (n * 2 ^ e) = f.gap n * 2 ^ e := by
      rw [gap, gap, log2_mul_two_pow hpos, ← Nat.pow_add]
      congr 1
      omega
    rw [roundUnits, roundUnits, Nat.div_one, Nat.div_one, Nat.one_mul, Nat.one_mul, hgap,
      nearest_mul_right _ _ (Nat.two_pow_pos e), Nat.mul_assoc]

theorem roundUnits_mul_right (n d : Nat) {k : Nat} (hk : 0 < k) :
    f.roundUnits (n * k) (d * k) = f.roundUnits n d := by
  rw [roundUnits, roundUnits, Nat.mul_div_mul_right n d hk, Nat.mul_right_comm,
    nearest_mul_right _ _ hk]

theorem roundUnits_near (n : Nat) {d : Nat} (hd : 0 < d) :
    2 * (f.roundUnits n d * d) ≤ 2 * n + d * f.gap (n / d) ∧
      2 * n ≤ 2 * (f.roundUnits n d * d) + d * f.gap (n / d) := by
  have hpos := Nat.mul_pos hd (f.gap_pos (n / d))
  have heq : f.roundUnits n d * d = nearest n (d * f.gap (n / d)) * (d * f.gap (n / d)) := by
    rw [roundUnits, Nat.mul_assoc, Nat.mul_comm d]
  rw [heq]
  exact ⟨two_mul_nearest_mul_le n hpos, two_mul_le_two_mul_nearest_mul n hpos⟩

/-- The gap is small beside a quotient that has all the bits of the format. -/
theorem gap_mul_le {n d : Nat} (h : 2 ^ f.precision ≤ n / d) :
    d * f.gap (n / d) * 2 ^ (f.precision - 1) ≤ n := by
  have hp := f.precision_pos
  have hpos : n / d ≠ 0 := Nat.ne_of_gt (Nat.lt_of_lt_of_le (Nat.two_pow_pos _) h)
  have hlog : f.precision ≤ (n / d).log2 := (Nat.le_log2 hpos).2 h
  have hgap : f.gap (n / d) * 2 ^ (f.precision - 1) ≤ n / d := by
    have he : (n / d).log2 + 1 - f.precision + (f.precision - 1) = (n / d).log2 := by omega
    rw [gap, ← Nat.pow_add, he]
    exact Nat.log2_self_le hpos
  calc d * f.gap (n / d) * 2 ^ (f.precision - 1)
      = d * (f.gap (n / d) * 2 ^ (f.precision - 1)) := Nat.mul_assoc _ _ _
    _ ≤ d * (n / d) := Nat.mul_le_mul_left d hgap
    _ ≤ n := Nat.mul_div_le n d

/-- The gap at a size below one divides one. -/
theorem gap_dvd_one {q : Nat} (hq : q ≤ f.one) : f.gap q ∣ f.one := by
  have hp := f.precision_pos
  refine Nat.pow_dvd_pow 2 ?_
  rcases Nat.eq_zero_or_pos q with rfl | hpos
  · simp; omega
  · have h₁ : q < 2 ^ (f.scale + 1) := by
      have h₂ : f.one < 2 ^ (f.scale + 1) := Nat.pow_lt_pow_right (by decide) (by omega)
      omega
    have h₃ := (Nat.log2_lt (by omega)).2 h₁
    omega

theorem one_pos : 0 < f.one := Nat.two_pow_pos _

theorem limit_eq : f.limit = 2 ^ f.bound * f.one := Nat.pow_add 2 f.bound f.scale

/-- One over a positive whole number is rounded to at most one. -/
theorem roundUnits_one_div_le {n : Nat} (h : 0 < n) :
    f.roundUnits (f.one * f.one) (n * f.one) ≤ f.one := by
  have hle : f.one * f.one ≤ n * f.one * f.one :=
    Nat.mul_le_mul_right _ (Nat.le_mul_of_pos_left _ h)
  have hq : f.one * f.one / (n * f.one) ≤ f.one := Nat.div_le_of_le_mul hle
  exact f.roundUnits_le (Nat.mul_pos h f.one_pos) (f.gap_dvd_one hq) hle

end BinaryFormat

namespace Binary

variable {f : BinaryFormat}

theorem round_eq_finite {n d : Nat} (a : Bool) (h : f.roundUnits n d < f.limit) :
    ∃ r, (round a n d : Binary f) = .finite a (f.roundUnits n d) r :=
  ⟨_, dif_pos h⟩

/-- A whole number with no more bits than the format keeps is held exactly. -/
theorem round_eq_whole {n : Nat} (a : Bool) (hn : n ≤ 2 ^ f.precision) (hl : n * f.one < f.limit) :
    ∃ r, (round a (n * f.one) 1 : Binary f) = .finite a (n * f.one) r := by
  have hr : f.roundUnits (n * f.one) 1 = n * f.one := f.roundUnits_one (f.gap_dvd_mul_pow hn)
  obtain ⟨r, h⟩ := round_eq_finite a (by rwa [hr])
  simp only [hr] at h
  exact ⟨_, h⟩

theorem ofNat_eq_finite {n : Nat} (hn : n ≤ 2 ^ f.precision) (hl : n * f.one < f.limit) :
    ∃ r, (ofNat n : Binary f) = .finite false (n * f.one) r :=
  round_eq_whole false hn hl

theorem one_div_ofNat {n : Nat} (h₀ : 0 < n) (hp : n ≤ 2 ^ f.precision) (hb : n < 2 ^ f.bound) :
    ∃ r, (1 / ofNat n : Binary f) =
      .finite false (f.roundUnits (f.one * f.one) (n * f.one)) r := by
  have hlt {k : Nat} (hk : k < 2 ^ f.bound) : k * f.one < f.limit := by
    rw [f.limit_eq]
    exact Nat.mul_lt_mul_of_pos_right hk f.one_pos
  obtain ⟨r₁, e₁⟩ := ofNat_eq_finite (n := 1) (Nat.le_trans h₀ hp) (hlt (Nat.lt_of_le_of_lt h₀ hb))
  obtain ⟨r₂, e₂⟩ := ofNat_eq_finite hp (hlt hb)
  have hle := f.roundUnits_one_div_le h₀
  have hone := hlt (Nat.lt_of_le_of_lt h₀ hb)
  rw [Nat.one_mul] at hone
  obtain ⟨r, e⟩ := round_eq_finite (false != false) (Nat.lt_of_le_of_lt hle hone)
  refine ⟨r, ?_⟩
  have hn : n * f.one ≠ 0 := Nat.ne_of_gt (Nat.mul_pos h₀ f.one_pos)
  calc (1 / ofNat n : Binary f)
      = Binary.div (ofNat 1) (ofNat n) := rfl
    _ = round (false != false) (f.one * f.one) (n * f.one) := by
        rw [e₁, e₂]
        simp [Binary.div, hn]
    _ = _ := e

end Binary

end Stagecraft
