import Stagecraft.Proofs.Act
import Stagecraft.Proofs.Number.Rounding
import Stagecraft.Time.Metronome

/-!
What a metronome does with elapsed time, as plain functions of its state: how much time has piled
up, how many periods are due, and what is kept. Main statements: `advance` is these functions
(`advance_apply`), the period of a rate is no longer than a second (`periodOfRate_le`), exactly the
rates up to `topRate` have one (`periodOfRate_pos_iff`), and no other whole number of nanoseconds
is closer to the time between two beats (`ofRate?_closest`).
-/

set_option autoImplicit false

namespace Stagecraft

namespace Duration

@[simp] theorem nanos_ofNanos {n : Nat} (h : n ≤ maxNanos) : (ofNanos n).nanos = n :=
  Nat.min_eq_left h

@[simp] theorem ofNanos_nanos (d : Duration) : ofNanos d.nanos = d := by
  rcases d with ⟨n, h⟩
  simp [ofNanos, h]

def total : List Duration → Nat
  | [] => 0
  | d :: ds => d.nanos + total ds

theorem mul?_eq_some {a : Duration} {k : Nat} (h : a.nanos * k ≤ maxNanos) :
    a.mul? k = some (ofNanos (a.nanos * k)) := by
  simp [mul?, ofNanos, h]

theorem sub?_eq_some {a b : Duration} (h : b.nanos ≤ a.nanos) :
    a.sub? b = some (ofNanos (a.nanos - b.nanos)) := by
  have hle : b ≤ a := h
  have ha := a.le_max
  have hm : a.nanos - b.nanos ≤ maxNanos := by omega
  simp [sub?, hle, subSat, ofNanos, hm]

end Duration

namespace Metronome

variable {ν ε : Type}

theorem untilNext_nanos (m : Metronome) :
    m.untilNext.nanos = m.period.nanos - m.pending.nanos := rfl

theorem untilNext_of_fresh {m : Metronome} (h : m.pending.nanos = 0) : m.untilNext = m.period := by
  rw [untilNext, Duration.subSat]
  cases m.period
  simp [h]

def pile (m : Metronome) (d : Duration) : Nat := (m.pending.addSat d).nanos

theorem pile_le (m : Metronome) (d : Duration) : m.pile d ≤ maxNanos := (m.pending.addSat d).le_max

theorem pile_eq {m : Metronome} {d : Duration} (h : m.pending.nanos + d.nanos ≤ maxNanos) :
    m.pile d = m.pending.nanos + d.nanos := Duration.nanos_ofNanos h

def due (m : Metronome) (d : Duration) : Nat := min m.cap.toNat (m.pile d / m.period.nanos)

def kept (m : Metronome) (d : Duration) : Nat :=
  if m.cap.toNat < m.pile d / m.period.nanos then m.pile d % m.period.nanos % 2 ^ 64
  else m.pile d % m.period.nanos

/-- A period that fits in 64 bits of nanoseconds loses nothing when a backlog is dropped. -/
theorem kept_eq {m : Metronome} (h : m.period.nanos ≤ 2 ^ 64) (d : Duration) :
    m.kept d = m.pile d % m.period.nanos := by
  have hlt := Nat.mod_lt (m.pile d) m.period_pos
  unfold kept
  split
  · exact Nat.mod_eq_of_lt (by omega)
  · rfl

theorem kept_le (m : Metronome) (d : Duration) : m.kept d ≤ maxNanos := by
  have h₁ := Nat.mod_le (m.pile d) m.period.nanos
  have h₂ := Nat.mod_le (m.pile d % m.period.nanos) (2 ^ 64)
  have h₃ := m.pile_le d
  unfold kept
  split <;> omega

def hasRoomFor (m : Metronome) (n : Nat) : Bool := decide (m.fired + n < 2 ^ 64)

@[simp] theorem hasRoomFor_pending (m : Metronome) (pending : Duration) (n : Nat) :
    ({ m with pending } : Metronome).hasRoomFor n = m.hasRoomFor n := rfl

def hasRoom (m : Metronome) (d : Duration) : Bool := m.hasRoomFor (m.due d)

theorem hasRoom_iff {m : Metronome} {d : Duration} :
    m.hasRoom d = true ↔ m.fired + m.due d < 2 ^ 64 := decide_eq_true_iff

def fed (m : Metronome) (d : Duration) : Metronome :=
  { m with
    pending := .ofNanos (m.kept d)
    fired := if m.hasRoom d then m.fired + m.due d else m.fired }

def dropNotice (ν : Type) (m : Metronome) (d : Duration) : List (Entry ν) :=
  if m.cap.toNat < m.pile d / m.period.nanos then
    [.log ⟨.trace, s!"dropping {m.pile d / m.period.nanos - m.cap.toNat} overdue periods"⟩]
  else []

theorem report_apply (n : Nat) (m : Metronome) :
    (report n : Act ν ε Metronome Nat) m =
      if m.hasRoomFor n then ⟨.ok n, { m with fired := m.fired + n }, []⟩
      else ⟨.error (.fault .addOverflow), m, []⟩ := by
  simp only [report, Act.bind_apply, Act.get_apply, hasRoomFor, decide_eq_true_eq]
  split <;> rfl

theorem advance_apply (m : Metronome) (d : Duration) :
    (advance d : Act ν ε Metronome Nat) m =
      ⟨if m.hasRoom d then .ok (m.due d) else .error (.fault .addOverflow), m.fed d,
        m.dropNotice ν d⟩ := by
  have hpile : (m.pending.addSat d).nanos = m.pile d := rfl
  by_cases hcap : m.cap.toNat < m.pile d / m.period.nanos
  · have hdue : m.due d = m.cap.toNat := Nat.min_eq_left (by omega)
    cases hr : m.hasRoomFor m.cap.toNat <;>
      simp [advance, report_apply, Act.bind_apply, hpile, hcap, hr, hdue, hasRoom, fed, kept,
        dropNotice, Outcome.after]
  · -- the whole periods are no longer than the pile, so neither product nor difference overflows
    have hdm := Nat.div_add_mod (m.pile d) m.period.nanos
    have hle := m.pile_le d
    have hdue : m.due d = m.pile d / m.period.nanos := Nat.min_eq_right (by omega)
    have hspan : m.period.nanos * (m.pile d / m.period.nanos) ≤ maxNanos := by omega
    have hrest : m.pile d - m.period.nanos * (m.pile d / m.period.nanos) =
        m.pile d % m.period.nanos := by omega
    have hsub : (m.pending.addSat d).sub?
        (.ofNanos (m.period.nanos * (m.pile d / m.period.nanos))) =
          some (.ofNanos (m.pile d % m.period.nanos)) := by
      rw [Duration.sub?_eq_some] <;> rw [Duration.nanos_ofNanos hspan, hpile]
      · rw [hrest]
      · omega
    cases hr : m.hasRoomFor (m.pile d / m.period.nanos) <;>
      simp [advance, report_apply, Act.bind_apply, hpile, hcap, hr, hdue, hasRoom, fed, kept,
        dropNotice, Outcome.after, Duration.mul?_eq_some hspan, hsub]

theorem kept_lt (m : Metronome) (d : Duration) : m.kept d < m.period.nanos := by
  have h₁ := Nat.mod_lt (m.pile d) m.period_pos
  have h₂ := Nat.mod_le (m.pile d % m.period.nanos) (2 ^ 64)
  unfold kept
  split <;> omega

@[simp] theorem fed_period (m : Metronome) (d : Duration) : (m.fed d).period = m.period := rfl

@[simp] theorem fed_cap (m : Metronome) (d : Duration) : (m.fed d).cap = m.cap := rfl

@[simp] theorem fed_pending (m : Metronome) (d : Duration) : (m.fed d).pending.nanos = m.kept d :=
  Duration.nanos_ofNanos (m.kept_le d)

theorem fed_fired {m : Metronome} {d : Duration} (h : m.hasRoom d = true) :
    (m.fed d).fired = m.fired + m.due d := if_pos h

/-- The periods that fall into more time, on top of those that are over. -/
theorem div_add_of_elapsed {p : Nat} (hp : 0 < p) (a e : Nat) :
    (a + e) / p = a / p + (a % p + e) / p := by
  have h : a + e = p * (a / p) + (a % p + e) := by rw [← Nat.add_assoc, Nat.div_add_mod]
  rw [h, Nat.mul_add_div hp]

theorem due_of_zero {m : Metronome} {d : Duration} (h : m.pending.nanos < m.period.nanos)
    (hd : d.nanos = 0) : m.due d = 0 := by
  have hle := m.pending.le_max
  rw [due, pile_eq (by omega), hd, Nat.add_zero, Nat.div_eq_of_lt h, Nat.min_zero]

theorem fed_of_zero {m : Metronome} {d : Duration} (h : m.pending.nanos < m.period.nanos)
    (hd : d.nanos = 0) : m.fed d = m := by
  have hle := m.pending.le_max
  have hk : m.kept d = m.pending.nanos := by
    rw [kept, pile_eq (by omega), hd, Nat.add_zero, Nat.div_eq_of_lt h, if_neg (Nat.not_lt_zero _),
      Nat.mod_eq_of_lt h]
  simp [fed, hk, due_of_zero h hd]

/-- Nothing is lost when this much time elapses: the pile is not cut off and no backlog is
dropped. -/
structure Lossless (m : Metronome) (d : Duration) : Prop where
  fits : m.pending.nanos + d.nanos ≤ maxNanos
  within : (m.pending.nanos + d.nanos) / m.period.nanos ≤ m.cap.toNat

namespace Lossless

variable {m : Metronome} {d e s : Duration}

theorem due_eq (h : m.Lossless d) : m.due d = (m.pending.nanos + d.nanos) / m.period.nanos := by
  rw [due, pile_eq h.fits, Nat.min_eq_right h.within]

theorem kept_eq (h : m.Lossless d) : m.kept d = (m.pending.nanos + d.nanos) % m.period.nanos := by
  rw [kept, pile_eq h.fits, if_neg (Nat.not_lt.2 h.within)]

theorem dropNotice_eq (h : m.Lossless d) (ν : Type) : m.dropNotice ν d = [] := by
  rw [dropNotice, pile_eq h.fits, if_neg (Nat.not_lt.2 h.within)]

theorem first (h : m.Lossless s) (hs : s.nanos = d.nanos + e.nanos) : m.Lossless d := by
  have hle : m.pending.nanos + d.nanos ≤ m.pending.nanos + s.nanos := by omega
  exact ⟨Nat.le_trans hle h.fits, Nat.le_trans (Nat.div_le_div_right hle) h.within⟩

theorem second (h : m.Lossless s) (hs : s.nanos = d.nanos + e.nanos) : (m.fed d).Lossless e := by
  have hd := (h.first hs).kept_eq
  have hsum : m.pending.nanos + s.nanos = m.pending.nanos + d.nanos + e.nanos := by omega
  have hfits := h.fits
  have hwithin := h.within
  rw [hsum, div_add_of_elapsed m.period_pos] at hwithin
  have hmod := Nat.mod_le (m.pending.nanos + d.nanos) m.period.nanos
  refine ⟨?_, ?_⟩
  · rw [fed_pending, hd]
    omega
  · rw [fed_pending, fed_period, fed_cap, hd]
    exact Nat.le_trans (Nat.le_add_left _ _) hwithin

theorem due_add (h : m.Lossless s) (hs : s.nanos = d.nanos + e.nanos) :
    m.due s = m.due d + (m.fed d).due e := by
  rw [h.due_eq, (h.first hs).due_eq, (h.second hs).due_eq, fed_pending, fed_period,
    (h.first hs).kept_eq, hs, ← Nat.add_assoc, div_add_of_elapsed m.period_pos]

theorem kept_add (h : m.Lossless s) (hs : s.nanos = d.nanos + e.nanos) :
    (m.fed d).kept e = m.kept s := by
  rw [(h.second hs).kept_eq, h.kept_eq, fed_pending, fed_period, (h.first hs).kept_eq,
    Nat.mod_add_mod, hs, Nat.add_assoc]

/-- There is room for two parts of the time if there is for the whole. -/
theorem hasRoom_add (h : m.Lossless s) (hs : s.nanos = d.nanos + e.nanos)
    (hr : m.hasRoom s = true) : m.hasRoom d = true ∧ (m.fed d).hasRoom e = true := by
  rw [hasRoom_iff, h.due_add hs] at hr
  have hd : m.hasRoom d = true := hasRoom_iff.2 (by omega)
  refine ⟨hd, hasRoom_iff.2 ?_⟩
  rw [fed_fired hd]
  omega

/-- Time that elapses in two parts is as good as in one. -/
theorem fed_add (h : m.Lossless s) (hs : s.nanos = d.nanos + e.nanos) (hr : m.hasRoom s = true) :
    (m.fed d).fed e = m.fed s := by
  obtain ⟨hd, he⟩ := h.hasRoom_add hs hr
  calc (m.fed d).fed e
      = { m with
          pending := .ofNanos ((m.fed d).kept e)
          fired := ((m.fed d).fed e).fired } := rfl
    _ = { m with pending := .ofNanos (m.kept s), fired := (m.fed s).fired } := by
        rw [h.kept_add hs, fed_fired he, fed_fired hd, fed_fired hr, h.due_add hs, Nat.add_assoc]
    _ = m.fed s := rfl

end Lossless

theorem make_eq_ok {p : Duration} {m : Metronome} (h : make p = .ok m) :
    m.period = p ∧ m.pending = .zero ∧ m.fired = 0 := by
  by_cases hp : 0 < p.nanos
  · simp only [make, hp, dif_pos, Except.ok.injEq] at h
    subst h
    exact ⟨rfl, rfl, rfl⟩
  · simp [make, hp] at h

theorem ofRate?_eq_some {hz : UInt32} {m : Metronome} (h : ofRate? hz = .ok (some m)) :
    m.period = periodOfRate hz ∧ m.pending = .zero ∧ m.fired = 0 := by
  unfold ofRate? at h
  split at h
  · cases h
  · cases hm : make (periodOfRate hz) with
    | error f => rw [hm] at h; cases h
    | ok m' => rw [hm] at h; cases h; exact make_eq_ok hm

theorem ofRate?_ne_none {hz : UInt32} (h : 0 < hz.toNat) : ofRate? hz ≠ .ok none := by
  have hne : hz ≠ 0 := fun h₀ => by simp [h₀] at h
  rw [ofRate?, if_neg hne]
  cases make (periodOfRate hz) <;> nofun

theorem withCap_cap (m : Metronome) (cap : UInt32) :
    (m.withCap cap).cap.toNat = max 1 cap.toNat := by
  unfold withCap
  split
  · simp; omega
  · have h₁ : (1 : UInt32).toNat = 1 := rfl
    simp [h₁]; omega

@[simp] theorem withCap_period (m : Metronome) (cap : UInt32) :
    (m.withCap cap).period = m.period := by
  unfold withCap; split <;> rfl

@[simp] theorem withCap_pending (m : Metronome) (cap : UInt32) :
    (m.withCap cap).pending = m.pending := by
  unfold withCap; split <;> rfl

@[simp] theorem withCap_fired (m : Metronome) (cap : UInt32) :
    (m.withCap cap).fired = m.fired := by
  unfold withCap; split <;> rfl

def unitsOfRate (n : Nat) : Nat := double.roundUnits (double.one * double.one) (n * double.one)

theorem unitsOfRate_anti {m n : Nat} (hm : 0 < m) (h : m ≤ n) : unitsOfRate n ≤ unitsOfRate m := by
  have hone := double.one_pos
  refine double.roundUnits_mono (Nat.mul_pos (Nat.lt_of_lt_of_le hm h) hone) (Nat.mul_pos hm hone) ?_
  exact Nat.mul_le_mul_left _ (Nat.mul_le_mul_right _ h)

/-- The period of a rate as a quotient that is rounded twice. -/
theorem periodOfRate_eq {hz : UInt32} (h : 0 < hz.toNat) :
    (periodOfRate hz).nanos = nearest (unitsOfRate hz.toNat * 10 ^ 9) double.one ∧
      (periodOfRate hz).nanos ≤ 10 ^ 9 := by
  have hlt : hz.toNat < 2 ^ 32 := hz.toNat_lt
  obtain ⟨r, e⟩ := Binary.one_div_ofNat (f := double) h
    (Nat.le_trans (Nat.le_of_lt hlt) (Nat.pow_le_pow_right (by decide) (by decide)))
    (Nat.lt_of_lt_of_le hlt (Nat.pow_le_pow_right (by decide) (by decide)))
  have hn : nearest (unitsOfRate hz.toNat * 10 ^ 9) double.one ≤ 10 ^ 9 :=
    nearest_le_of_le_mul double.one_pos (Nat.mul_le_mul_right _ (double.roundUnits_one_div_le h))
  have heq : (periodOfRate hz).nanos = nearest (unitsOfRate hz.toNat * 10 ^ 9) double.one := by
    rw [periodOfRate, e, Duration.nanos_ofNanos]
    · rfl
    · exact Nat.le_trans hn (by decide)
  exact ⟨heq, heq ▸ hn⟩

theorem periodOfRate_le {hz : UInt32} (h : 0 < hz.toNat) : (periodOfRate hz).nanos ≤ 10 ^ 9 :=
  (periodOfRate_eq h).2

def topRate : Nat := 2 * 10 ^ 9

/-- A period that is no longer than half a nanosecond rounds to nothing. The one of the highest
rate is rounded up to double precision, and so it is just over half a nanosecond. -/
theorem periodOfRate_pos_iff {hz : UInt32} (h : 0 < hz.toNat) :
    0 < (periodOfRate hz).nanos ↔ hz.toNat ≤ topRate := by
  have hmul {u v : Nat} (huv : u ≤ v) : 2 * (u * 10 ^ 9) ≤ 2 * (v * 10 ^ 9) :=
    Nat.mul_le_mul_left 2 (Nat.mul_le_mul_right _ huv)
  have htop : double.one < 2 * (unitsOfRate topRate * 10 ^ 9) := by decide +kernel
  have hover : 2 * (unitsOfRate (topRate + 1) * 10 ^ 9) ≤ double.one := by decide +kernel
  rw [(periodOfRate_eq h).1, nearest_pos_iff double.one_pos]
  constructor
  · intro hlt
    refine Nat.not_lt.1 fun hgt => Nat.not_le.2 hlt ?_
    have hanti : unitsOfRate hz.toNat ≤ unitsOfRate (topRate + 1) :=
      unitsOfRate_anti (Nat.succ_pos _) hgt
    exact Nat.le_trans (hmul hanti) hover
  · intro hle
    exact Nat.lt_of_lt_of_le htop (hmul (unitsOfRate_anti h hle))

theorem ofRate?_of_le {hz : UInt32} (h : 0 < hz.toNat) (hle : hz.toNat ≤ topRate) :
    ∃ m, ofRate? hz = .ok (some m) := by
  have hne : hz ≠ 0 := fun h₀ => by simp [h₀] at h
  have hp := (periodOfRate_pos_iff h).2 hle
  exact ⟨_, by rw [ofRate?, if_neg hne, make, dif_pos hp]; rfl⟩

theorem ofRate?_of_gt {hz : UInt32} (h : topRate < hz.toNat) :
    ofRate? hz = .error .emptyPeriod := by
  have hpos : 0 < hz.toNat := Nat.lt_of_le_of_lt (Nat.zero_le _) h
  have hne : hz ≠ 0 := fun h₀ => by simp [h₀] at hpos
  have hp : ¬0 < (periodOfRate hz).nanos := mt (periodOfRate_pos_iff hpos).1 (Nat.not_le.2 h)
  rw [ofRate?, if_neg hne, make, dif_neg hp]
  rfl

/-- One over a rate is off by less than one part in `2 ^ 52`. -/
theorem unitsOfRate_near {n : Nat} (h : 0 < n) (hn : n < 2 ^ 32) :
    ∃ e, e * 2 ^ 52 ≤ double.one ∧ 2 * (unitsOfRate n * n) ≤ 2 * double.one + e ∧
      2 * double.one ≤ 2 * (unitsOfRate n * n) + e := by
  have hfull : 2 ^ double.precision ≤ double.one / n := by
    rw [Nat.le_div_iff_mul_le h]
    calc 2 ^ 53 * n
        ≤ 2 ^ 53 * 2 ^ 32 := Nat.mul_le_mul_left _ (Nat.le_of_lt hn)
      _ = 2 ^ 85 := by decide
      _ ≤ double.one := Nat.pow_le_pow_right (by decide) (by decide)
  rw [unitsOfRate, double.roundUnits_mul_right _ _ double.one_pos]
  exact ⟨_, double.gap_mul_le hfull, double.roundUnits_near double.one h⟩

/-- The period, taken as often as the rate says, misses a second by at most half the rate. What the
first rounding adds to that is less than one, so it does not show in whole numbers. -/
theorem periodOfRate_near {hz : UInt32} (h : 0 < hz.toNat) :
    2 * ((periodOfRate hz).nanos * hz.toNat) ≤ 2 * 10 ^ 9 + hz.toNat ∧
      2 * 10 ^ 9 ≤ 2 * ((periodOfRate hz).nanos * hz.toNat) + hz.toNat := by
  have hone := double.one_pos
  obtain ⟨e, he, hle, hge⟩ := unitsOfRate_near h hz.toNat_lt
  have hp := two_mul_nearest_mul_le (unitsOfRate hz.toNat * 10 ^ 9) hone
  have hp' := two_mul_le_two_mul_nearest_mul (unitsOfRate hz.toNat * 10 ^ 9) hone
  rw [← (periodOfRate_eq h).1] at hp hp'
  generalize (periodOfRate hz).nanos = p at hp hp' ⊢
  generalize unitsOfRate hz.toNat = u at *
  generalize hz.toNat = n at *
  generalize double.one = o at *
  have hu : u * 10 ^ 9 * n = u * n * 10 ^ 9 := Nat.mul_right_comm _ _ _
  have hpn : p * o * n = p * n * o := Nat.mul_right_comm _ _ _
  have hup := Nat.mul_le_mul_right n hp
  have hlow := Nat.mul_le_mul_right n hp'
  simp only [Nat.add_mul, Nat.mul_assoc 2, hpn, hu] at hup hlow
  constructor
  · refine Nat.le_of_not_lt fun hgt => ?_
    have hfar := Nat.mul_le_mul_right o hgt
    rw [Nat.succ_mul, Nat.add_mul, Nat.mul_assoc 2 (p * n), Nat.mul_comm n] at hfar
    omega
  · refine Nat.le_of_not_lt fun hgt => ?_
    have hfar := Nat.mul_le_mul_right o hgt
    rw [Nat.succ_mul, Nat.add_mul, Nat.mul_assoc 2 (p * n), Nat.mul_comm n] at hfar
    omega

/-- How far a number of nanoseconds, taken as often as the rate says, misses one second. -/
def drift (hz n : Nat) : Nat := ((n * hz : Nat) - 10 ^ 9 : Int).natAbs

/-- A rate that has a timer has the whole number of nanoseconds for its period that is nearest to
one second divided by the rate, although the quotient is rounded twice. -/
theorem ofRate?_closest {hz : UInt32} (h : 0 < hz.toNat) (hok : ∀ f, ofRate? hz ≠ .error f) :
    ∃ m, ofRate? hz = .ok (some m) ∧ 2 * drift hz.toNat m.period.nanos ≤ hz.toNat ∧
      ∀ n, drift hz.toNat m.period.nanos ≤ drift hz.toNat n := by
  rcases hm : ofRate? hz with f | _ | m
  · exact absurd hm (hok f)
  · exact absurd hm (ofRate?_ne_none h)
  · obtain ⟨hle, hge⟩ := periodOfRate_near h
    rw [← (ofRate?_eq_some hm).1] at hle hge
    have hdrift : 2 * drift hz.toNat m.period.nanos ≤ hz.toNat := by
      unfold drift
      omega
    refine ⟨m, rfl, hdrift, fun n => ?_⟩
    unfold drift
    -- two different whole numbers of nanoseconds are a whole rate apart
    rcases Nat.lt_trichotomy n m.period.nanos with hn | rfl | hn
    · have hstep := Nat.mul_le_mul_right hz.toNat hn
      rw [Nat.succ_mul] at hstep
      omega
    · exact Nat.le_refl _
    · have hstep := Nat.mul_le_mul_right hz.toNat hn
      rw [Nat.succ_mul] at hstep
      omega

/-- At the highest rate the quotient lies in the middle between two whole numbers. -/
theorem ofRate?_closest_top :
    ∃ m, ofRate? 2000000000 = .ok (some m) ∧ 2 * drift 2000000000 m.period.nanos ≤ 2000000000 ∧
      ∀ n, drift 2000000000 m.period.nanos ≤ drift 2000000000 n := by
  have hpos : 0 < (2000000000 : UInt32).toNat := by decide
  obtain ⟨m, hm⟩ := ofRate?_of_le hpos (by decide)
  refine ofRate?_closest hpos ?_
  intro f hf
  cases hm.symm.trans hf

end Metronome

end Stagecraft
