import Stagecraft.Proofs.Time.Metronome

/-!
How long a metronome waits for its next period. Main statements: until the count of reported
periods is full no call fails, a call reports nothing exactly if it is shorter than the wait, and
one as long as the wait reports one period (`sound_of_ticking`); and two metronomes that differ in
their caps wait alike exactly if neither can be left with a remainder that 64 bits do not hold
(`waits_eq_iff`).
-/

set_option autoImplicit false

namespace Stagecraft.Metronome

variable {ν ε : Type}

theorem make_of_pos {p : Duration} (h : 0 < p.nanos) : ∃ m, make p = .ok m :=
  ⟨_, dif_pos h⟩

section Wait

variable {m : Metronome} (hlt : m.pending.nanos < m.period.nanos)
include hlt

theorem pile_lt_iff (d : Duration) :
    m.pile d < m.period.nanos ↔ d.nanos < m.untilNext.nanos := by
  have hperiod := m.period.le_max
  rw [untilNext_nanos]
  by_cases hfits : m.pending.nanos + d.nanos ≤ maxNanos
  · rw [pile_eq hfits]
    omega
  · -- a pile that is cut off is as long as the longest period
    have hsat : m.pile d = maxNanos := Nat.min_eq_right (Nat.le_of_not_le hfits)
    omega

theorem due_eq_zero_iff (d : Duration) : m.due d = 0 ↔ d.nanos < m.untilNext.nanos := by
  have hcap := m.cap_pos
  rw [← pile_lt_iff hlt, ← Nat.div_eq_zero_iff_lt m.period_pos, due]
  omega

theorem pile_untilNext : m.pile m.untilNext = m.period.nanos := by
  have hperiod := m.period.le_max
  have hsum : m.pending.nanos + m.untilNext.nanos = m.period.nanos := by
    rw [untilNext_nanos]
    omega
  rw [pile_eq (by omega), hsum]

theorem due_untilNext : m.due m.untilNext = 1 := by
  rw [due, pile_untilNext hlt, Nat.div_self m.period_pos]
  exact Nat.min_eq_right m.cap_pos

theorem kept_untilNext : m.kept m.untilNext = 0 := by
  have hcap := m.cap_pos
  rw [kept, pile_untilNext hlt, Nat.div_self m.period_pos, Nat.mod_self, if_neg (by omega)]

end Wait

/-- A metronome that was made with this period and cap. All calls so far came back, and they
reported `total` periods. -/
inductive Ticking (ν ε : Type) (period : Duration) (cap : UInt32) : (total : Nat) → Metronome → Prop
  | made {m : Metronome} (h : make period = .ok m) : Ticking ν ε period cap 0 (m.withCap cap)
  | advanced {total n : Nat} {m m' : Metronome} {d : Duration} {said : List (Entry ν)}
      (h : Ticking ν ε period cap total m)
      (ha : (advance d : Act ν ε Metronome Nat) m = ⟨.ok n, m', said⟩) :
      Ticking ν ε period cap (total + n) m'

namespace Ticking

variable {period : Duration} {cap : UInt32} {total : Nat} {m : Metronome}

theorem fields_eq (h : Ticking ν ε period cap total m) :
    m.period = period ∧ m.cap.toNat = max 1 cap.toNat ∧ m.fired = total ∧ total < 2 ^ 64 ∧
      m.pending.nanos < m.period.nanos := by
  induction h with
  | made h =>
    rename_i m
    obtain ⟨hperiod, hpending, hfired⟩ := make_eq_ok h
    refine ⟨by simp [hperiod], withCap_cap _ _, by simp [hfired], by decide, ?_⟩
    rw [withCap_pending, withCap_period, hpending]
    exact m.period_pos
  | @advanced total n m m' d said _ ha ih =>
    obtain ⟨hperiod, hcap, rfl, _, _⟩ := ih
    rw [advance_apply] at ha
    cases hr : m.hasRoom d with
    | false => simp [hr] at ha
    | true =>
      simp only [hr, if_true, Outcome.mk.injEq, Except.ok.injEq] at ha
      obtain ⟨rfl, rfl, _⟩ := ha
      exact ⟨hperiod, hcap, fed_fired hr, hasRoom_iff.1 hr, by simpa using m.kept_lt d⟩

theorem fed (h : Ticking ν ε period cap total m) {d : Duration} (hr : m.hasRoom d = true) :
    Ticking ν ε period cap (total + m.due d) (m.fed d) :=
  h.advanced (by rw [advance_apply, if_pos hr])

end Ticking

/-- What holds of a metronome with this period and cap when it has reported `total` periods. -/
structure Sound (ν ε : Type) (period : Duration) (cap : UInt32) (total : Nat) (m : Metronome) :
    Prop where
  wait : 0 < m.untilNext.nanos ∧ m.untilNext ≤ period
  /-- Only the count of reported periods can make a call fail. -/
  returns : ∀ e, ∃ n ≤ max 1 cap.toNat, ((advance e : Act ν ε Metronome Nat) m).result =
    if total + n < 2 ^ 64 then .ok n else .error (.fault .addOverflow)
  idle : ∀ e, ((advance e : Act ν ε Metronome Nat) m).result = .ok 0 ↔ e < m.untilNext
  wakes : total + 1 < 2 ^ 64 →
    ((advance m.untilNext : Act ν ε Metronome Nat) m).result = .ok 1 ∧
      ((advance m.untilNext : Act ν ε Metronome Nat) m).state.untilNext = period

theorem Ticking.sound {period : Duration} {cap : UInt32} {total : Nat} {m : Metronome}
    (h : Ticking ν ε period cap total m) : Sound ν ε period cap total m := by
  obtain ⟨hperiod, hcap, hfired, hroom, hlt⟩ := h.fields_eq
  have hresult : ∀ e, ((advance e : Act ν ε Metronome Nat) m).result =
      if total + m.due e < 2 ^ 64 then .ok (m.due e) else .error (.fault .addOverflow) := by
    intro e
    simp only [advance_apply, hasRoom_iff, hfired]
  refine ⟨?_, ?_, ?_, ?_⟩
  · have hle : m.untilNext.nanos ≤ m.period.nanos := Nat.sub_le _ _
    rw [hperiod] at hle
    exact ⟨Nat.sub_pos_of_lt hlt, hle⟩
  · intro e
    refine ⟨m.due e, ?_, hresult e⟩
    rw [← hcap]
    exact Nat.min_le_left _ _
  · intro e
    rw [hresult, show e < m.untilNext ↔ _ from (due_eq_zero_iff hlt e).symm]
    constructor
    · intro hzero
      split at hzero
      · exact Except.ok.inj hzero
      · cases hzero
    · intro hzero
      rw [hzero, Nat.add_zero, if_pos hroom]
  · intro hnext
    rw [hresult, due_untilNext hlt, if_pos hnext]
    refine ⟨rfl, ?_⟩
    rw [← hperiod, advance_apply]
    exact untilNext_of_fresh (by rw [fed_pending, kept_untilNext hlt])

theorem sound_of_ticking {period : Duration} (hp : 0 < period.nanos) (cap : UInt32) :
    (∃ m, make period = .ok m) ∧
      ∀ total m, Ticking ν ε period cap total m → Sound ν ε period cap total m :=
  ⟨make_of_pos hp, fun _ _ h => h.sound⟩

theorem defaultCap_pos : 0 < defaultCap.toNat := by decide

/-- A new metronome whose period is longer than 64 bits of nanoseconds. -/
def sluggish : Metronome := ⟨.ofNanos (2 ^ 65), .zero, 0, defaultCap, by decide, defaultCap_pos⟩

theorem make_sluggish : make (.ofNanos (2 ^ 65)) = .ok sluggish := rfl

/-- A cap of nothing counts as one. After five halves of the period a backlog is dropped, and 64
bits do not hold the half that is over. -/
theorem sound_of_ticking_sluggish :
    let m := (sluggish.withCap 0).fed (.ofNanos (5 * 2 ^ 64))
    Ticking Empty Empty (.ofNanos (2 ^ 65)) 0 1 m ∧
      Sound Empty Empty (.ofNanos (2 ^ 65)) 0 1 m := by
  intro m
  have hm : Ticking Empty Empty (.ofNanos (2 ^ 65)) 0 1 m := by
    have hdue : (sluggish.withCap 0).due (.ofNanos (5 * 2 ^ 64)) = 1 := by decide
    have hnew : Ticking Empty Empty (.ofNanos (2 ^ 65)) 0 0 (sluggish.withCap 0) :=
      .made make_sluggish
    have hfed := hnew.fed (d := .ofNanos (5 * 2 ^ 64)) (by decide)
    rwa [hdue] at hfed
  exact ⟨hm, (sound_of_ticking (by decide) 0).2 1 m hm⟩

def waits (ν ε : Type) (m : Metronome) : List Duration → List Duration
  | [] => []
  | d :: ds =>
    let next := ((advance d : Act ν ε Metronome Nat) m).state
    next.untilNext :: waits ν ε next ds

/-- No pile leaves a remainder that 64 bits do not hold when a backlog is dropped. -/
def Unclipped (m : Metronome) : Prop :=
  m.period.nanos ≤ 2 ^ 64 ∨ maxNanos < (m.cap.toNat + 1) * m.period.nanos + 2 ^ 64

instance (m : Metronome) : Decidable m.Unclipped := inferInstanceAs (Decidable (_ ∨ _))

theorem unclipped_withCap_iff (m : Metronome) (c : UInt32) :
    (m.withCap c).Unclipped ↔
      m.period.nanos ≤ 2 ^ 64 ∨ maxNanos < (max 1 c.toNat + 1) * m.period.nanos + 2 ^ 64 := by
  rw [Unclipped, withCap_period, withCap_cap]

/-- What a low cap never clips, a higher one does not clip either. -/
theorem unclipped_of_le {m : Metronome} {c c' : UInt32} (h : (m.withCap c).Unclipped)
    (hle : max 1 c.toNat ≤ max 1 c'.toNat) : (m.withCap c').Unclipped := by
  rw [unclipped_withCap_iff] at h ⊢
  refine h.imp_right fun hlong => Nat.lt_of_lt_of_le hlong ?_
  exact Nat.add_le_add_right (Nat.mul_le_mul_right _ (Nat.succ_le_succ hle)) _

theorem Unclipped.kept_eq {m : Metronome} (h : m.Unclipped) (d : Duration) :
    m.kept d = m.pile d % m.period.nanos := by
  rcases h with hle | hlong
  · exact Metronome.kept_eq hle d
  · unfold kept
    split
    · rename_i hdrop
      have hdm := Nat.div_add_mod (m.pile d) m.period.nanos
      have hpile := m.pile_le d
      have hspan : (m.cap.toNat + 1) * m.period.nanos ≤
          m.period.nanos * (m.pile d / m.period.nanos) := by
        rw [Nat.mul_comm]
        exact Nat.mul_le_mul_left _ hdrop
      exact Nat.mod_eq_of_lt (by omega)
    · rfl

/-- Metronomes with the same period and the same time piled up, which keep the same of more time. -/
structure Alike (m m' : Metronome) : Prop where
  period : m'.period = m.period
  pending : m'.pending = m.pending
  keeps : m.cap.toNat = m'.cap.toNat ∨ m.Unclipped ∧ m'.Unclipped

namespace Alike

variable {m m' : Metronome}

theorem pile_eq (h : Alike m m') (d : Duration) : m'.pile d = m.pile d := by
  rw [pile, pile, h.pending]

theorem kept_eq (h : Alike m m') (d : Duration) : m'.kept d = m.kept d := by
  rcases h.keeps with hcap | ⟨hm, hm'⟩
  · rw [kept, kept, h.pile_eq, h.period, hcap]
  · rw [hm.kept_eq, hm'.kept_eq, h.pile_eq, h.period]

theorem fed (h : Alike m m') (d : Duration) : Alike (m.fed d) (m'.fed d) :=
  ⟨h.period, congrArg Duration.ofNanos (h.kept_eq d), h.keeps⟩

theorem untilNext_eq (h : Alike m m') : m'.untilNext = m.untilNext := by
  rw [untilNext, untilNext, h.period, h.pending]

theorem waits_eq (h : Alike m m') (ds : List Duration) : waits ν ε m' ds = waits ν ε m ds := by
  induction ds generalizing m m' with
  | nil => rfl
  | cons d ds ih =>
    simp only [waits, advance_apply]
    rw [(h.fed d).untilNext_eq, ih (h.fed d)]

end Alike

/-- After whole periods and 2^64 nanoseconds, a metronome that has to drop some of the periods
starts over. -/
theorem untilNext_fed_of_long {m : Metronome} (hfresh : m.pending.nanos = 0)
    (hlong : 2 ^ 64 < m.period.nanos) {d : Duration} {k : Nat}
    (hd : d.nanos = m.period.nanos * k + 2 ^ 64) :
    (m.fed d).untilNext.nanos =
      if m.cap.toNat < k then m.period.nanos else m.period.nanos - 2 ^ 64 := by
  have hmax := d.le_max
  have hpile : m.pile d = m.period.nanos * k + 2 ^ 64 := by
    rw [Metronome.pile_eq (by omega), hfresh, Nat.zero_add, hd]
  have hdiv : m.pile d / m.period.nanos = k := by
    rw [hpile, Nat.mul_add_div m.period_pos, Nat.div_eq_of_lt hlong, Nat.add_zero]
  have hmod : m.pile d % m.period.nanos = 2 ^ 64 := by
    rw [hpile, Nat.mul_add_mod, Nat.mod_eq_of_lt hlong]
  rw [untilNext_nanos, fed_pending, fed_period, kept, hdiv, hmod, Nat.mod_self]
  split <;> rfl

theorem unclipped_of_waits {m : Metronome} (hfresh : m.pending = .zero) {c c' : UInt32}
    (hlt : max 1 c.toNat < max 1 c'.toNat)
    (h : ∀ ds, waits ν ε (m.withCap c) ds = waits ν ε (m.withCap c') ds) :
    (m.withCap c).Unclipped := by
  rw [unclipped_withCap_iff]
  refine Decidable.byContradiction fun hclipped => ?_
  rw [not_or, Nat.not_le, Nat.not_lt, Nat.mul_comm] at hclipped
  obtain ⟨hlong, hfits⟩ := hclipped
  let d : Duration := ⟨m.period.nanos * (max 1 c.toNat + 1) + 2 ^ 64, hfits⟩
  have hwait : ∀ limit : UInt32, ((m.withCap limit).fed d).untilNext.nanos =
      if max 1 limit.toNat < max 1 c.toNat + 1 then m.period.nanos
      else m.period.nanos - 2 ^ 64 := by
    intro limit
    have hfed := untilNext_fed_of_long (m := m.withCap limit) (d := d) (k := max 1 c.toNat + 1)
      (by rw [withCap_pending, hfresh]; rfl) (by rwa [withCap_period]) (by rw [withCap_period])
    rwa [withCap_period, withCap_cap] at hfed
  have hd := h [d]
  simp only [waits, advance_apply, List.cons.injEq, and_true] at hd
  have hnanos := congrArg Duration.nanos hd
  rw [hwait, hwait, if_pos (Nat.lt_succ_self _), if_neg (by omega)] at hnanos
  omega

theorem waits_eq_iff_of_le {m : Metronome} (hfresh : m.pending = .zero) {c c' : UInt32}
    (hle : max 1 c.toNat ≤ max 1 c'.toNat) :
    (∀ ds, waits ν ε (m.withCap c) ds = waits ν ε (m.withCap c') ds) ↔
      max 1 c.toNat = max 1 c'.toNat ∨ (m.withCap c).Unclipped := by
  constructor
  · intro hall
    rcases Nat.lt_or_eq_of_le hle with hlt | heq
    · exact .inr (unclipped_of_waits hfresh hlt hall)
    · exact .inl heq
  · intro hsafe ds
    have halike : Alike (m.withCap c') (m.withCap c) := by
      refine ⟨by simp, by simp, ?_⟩
      rw [withCap_cap, withCap_cap]
      rcases hsafe with heq | hlow
      · exact .inl heq.symm
      · exact .inr ⟨unclipped_of_le hlow hle, hlow⟩
    exact halike.waits_eq ds

/-- The cap makes no difference to the wait, exactly if the two caps count as the same, or the
period fits in 64 bits of nanoseconds, or it is so long that no remainder above that can follow a
dropped backlog. -/
theorem waits_eq_iff {p : Duration} {m : Metronome} (h : make p = .ok m) (c c' : UInt32) :
    (∀ ds, waits ν ε (m.withCap c) ds = waits ν ε (m.withCap c') ds) ↔
      max 1 c.toNat = max 1 c'.toNat ∨ p.nanos ≤ 2 ^ 64 ∨
        maxNanos < (max 1 (min c.toNat c'.toNat) + 1) * p.nanos + 2 ^ 64 := by
  obtain ⟨rfl, hfresh, _⟩ := make_eq_ok h
  rcases Nat.le_total (max 1 c.toNat) (max 1 c'.toNat) with hle | hle
  · rw [waits_eq_iff_of_le hfresh hle, unclipped_withCap_iff,
      show max 1 (min c.toNat c'.toNat) = max 1 c.toNat by omega]
  · have hswap : (∀ ds, waits ν ε (m.withCap c) ds = waits ν ε (m.withCap c') ds) ↔
        ∀ ds, waits ν ε (m.withCap c') ds = waits ν ε (m.withCap c) ds :=
      forall_congr' fun _ => eq_comm
    rw [hswap, waits_eq_iff_of_le hfresh hle, unclipped_withCap_iff, eq_comm,
      show max 1 (min c.toNat c'.toNat) = max 1 c'.toNat by omega]

/-- With a period of 10 ms the cap decides how much of a second is made up for, and nothing
else. -/
theorem waits_eq_iff_short :
    ∃ m, make (.ofNanos 10000000) = .ok m ∧
      waits Empty Empty (m.withCap 3) [.ofNanos 1005000000, .ofNanos 7000000] =
        waits Empty Empty (m.withCap 200) [.ofNanos 1005000000, .ofNanos 7000000] := by
  obtain ⟨m, hm⟩ := make_of_pos (p := .ofNanos 10000000) (by decide)
  exact ⟨m, hm, (waits_eq_iff hm 3 200).2 (.inr (.inl (by decide))) _⟩

/-- After five halves of the period the higher cap waits for the other half, and the lower one for
a whole period. -/
theorem waits_differ_of_clipped :
    make (.ofNanos (2 ^ 65)) = .ok sluggish ∧
      waits Empty Empty (sluggish.withCap 1) [.ofNanos (5 * 2 ^ 64)] ≠
        waits Empty Empty (sluggish.withCap 2) [.ofNanos (5 * 2 ^ 64)] :=
  ⟨make_sluggish, by decide⟩

end Stagecraft.Metronome
