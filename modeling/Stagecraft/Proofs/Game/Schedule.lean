import Stagecraft.Proofs.Game.Lifecycle

/-!
The schedule of a running game. Main statement: ticks are due at the multiples of the period,
counted from the moment the timer started, whatever happens in between (`play_schedule`). Neither
a pass that fails nor a dropped backlog moves them.
-/

set_option autoImplicit false

namespace Stagecraft

namespace Metronome

/-- A metronome that was fed `total` nanoseconds since it was made keeps what they exceed whole
periods by. -/
structure InPhase (m : Metronome) (period : Duration) (cap total : Nat) : Prop where
  period_eq : m.period = period
  cap_eq : m.cap.toNat = cap
  pending_eq : m.pending.nanos = total % period.nanos

namespace InPhase

variable {m : Metronome} {period d : Duration} {cap total : Nat}

theorem of_ofRate? {hz limit : UInt32} (h : ofRate? hz = .ok (some m)) :
    (m.withCap limit).InPhase (periodOfRate hz) (max 1 limit.toNat) 0 := by
  obtain ⟨h₁, h₂, _⟩ := ofRate?_eq_some h
  refine ⟨by simp [h₁], withCap_cap _ _, ?_⟩
  simp [h₂, Duration.zero]

theorem pending_lt (h : m.InPhase period cap total) : m.pending.nanos < m.period.nanos := by
  have hpos := m.period_pos
  rw [h.period_eq] at hpos ⊢
  rw [h.pending_eq]
  exact Nat.mod_lt total hpos

theorem pile_eq (h : m.InPhase period cap total) (hp : period.nanos ≤ 10 ^ 9)
    (hd : d.nanos + 10 ^ 9 ≤ maxNanos) : m.pile d = total % period.nanos + d.nanos := by
  have hpos : 0 < period.nanos := h.period_eq ▸ m.period_pos
  have hlt := Nat.mod_lt total hpos
  have hpend := h.pending_eq
  rw [Metronome.pile_eq (by omega), hpend]

theorem fed (h : m.InPhase period cap total) (hp : period.nanos ≤ 10 ^ 9)
    (hd : d.nanos + 10 ^ 9 ≤ maxNanos) : (m.fed d).InPhase period cap (total + d.nanos) := by
  have hperiod : m.period.nanos ≤ 2 ^ 64 := by
    rw [h.period_eq]
    exact Nat.le_trans hp (by decide)
  refine ⟨h.period_eq, h.cap_eq, ?_⟩
  rw [fed_pending, kept_eq hperiod, h.pile_eq hp hd, h.period_eq, Nat.mod_add_mod]

theorem due_eq (h : m.InPhase period cap total) (hp : period.nanos ≤ 10 ^ 9)
    (hd : d.nanos + 10 ^ 9 ≤ maxNanos) :
    m.due d = min cap ((total + d.nanos) / period.nanos - total / period.nanos) := by
  have hpos : 0 < period.nanos := h.period_eq ▸ m.period_pos
  rw [due, h.pile_eq hp hd, h.cap_eq, h.period_eq, div_add_of_elapsed hpos total,
    Nat.add_sub_cancel_left]

theorem untilNext_eq (h : m.InPhase period cap total) :
    m.untilNext.nanos = period.nanos - total % period.nanos := by
  simp [untilNext, Duration.subSat, h.period_eq, h.pending_eq]

end InPhase

end Metronome

namespace Game

variable {κ W σ ν : Type}

def Command.elapsed : Command κ W σ ν → Nat
  | .advance d => d.nanos
  | _ => 0

def elapsed : List (Command κ W σ ν) → Nat
  | [] => 0
  | c :: rest => c.elapsed + elapsed rest

namespace Control

def Punctual (period : Duration) (cap total : Nat) (c : Control) : Prop :=
  c.phase = .running ∧ ∃ m, c.timer = some m ∧ m.InPhase period cap total

end Control

namespace Shift

variable {k : Command κ W σ ν} {ok : Bool} {c c' : Control}

theorem of_stopped (h : Shift k ok c c') (hp : c.phase = .stopped) : c'.phase = .stopped := by
  have hle := h.rank_le
  rw [hp] at hle
  cases hp' : c'.phase <;> simp [hp', Phase.rank] at hle ⊢

theorem rates_eq (h : Shift k ok c c') :
    c'.tickRate = c.tickRate ∧ c'.maxCatchUp = c.maxCatchUp := by
  cases h <;> exact ⟨rfl, rfl⟩

/-- A game that comes to run has a timer that starts from nothing. -/
theorem punctual_of_running (h : Shift k ok c c') (hp : c.phase ≠ .running)
    (hr : c'.phase = .running) :
    c'.Punctual (Metronome.periodOfRate c.tickRate) (max 1 c.maxCatchUp.toNat) 0 := by
  cases h with
  | keep => exact absurd hr hp
  | halt => cases hr
  | feed => exact absurd hr hp
  | reveal => cases hr
  | start _ _ hm => exact ⟨rfl, _, rfl, Metronome.InPhase.of_ofRate? hm⟩
  | gesture _ hm => exact ⟨rfl, _, rfl, Metronome.InPhase.of_ofRate? hm⟩

theorem punctual {period : Duration} {cap total : Nat} (h : Shift k ok c c')
    (hc : c.Punctual period cap total) (hp : period.nanos ≤ 10 ^ 9)
    (hd : ∀ d, k = .advance d → d.nanos + 10 ^ 9 ≤ maxNanos) :
    c'.phase = .stopped ∨ c'.Punctual period cap (total + k.elapsed) := by
  obtain ⟨hr, m, hm, hin⟩ := hc
  cases h with
  | keep hk =>
    have he : k.elapsed = 0 := by
      cases k with
      | advance d => simp [hk d rfl] at hm
      | _ => rfl
    rw [he]
    exact .inr ⟨hr, m, hm, hin⟩
  | halt => exact .inl rfl
  | @feed d _ _ m' hm' =>
    have : m' = m := Option.some.inj (hm'.symm.trans hm)
    subst this
    exact .inr ⟨hr, _, rfl, hin.fed hp (hd d rfl)⟩
  | reveal h₀ => rw [h₀] at hr; cases hr
  | start h₀ => rw [h₀] at hr; cases hr
  | gesture h₀ => rw [h₀] at hr; cases hr

theorem pending_lt (h : Shift k ok c c')
    (hc : ∀ m, c.timer = some m → m.pending.nanos < m.period.nanos) :
    ∀ m, c'.timer = some m → m.pending.nanos < m.period.nanos := by
  intro m' hm'
  cases h with
  | keep => exact hc m' hm'
  | halt => cases hm'
  | @feed d _ _ m hm =>
    cases hm'
    simpa using m.kept_lt d
  | reveal => exact hc m' hm'
  | start _ _ hm => cases hm'; exact (Metronome.InPhase.of_ofRate? hm).pending_lt
  | gesture _ hm => cases hm'; exact (Metronome.InPhase.of_ofRate? hm).pending_lt

end Shift

variable [Actor κ W ν] [Surface σ ν]

theorem play_phase_of_stopped (cs : List (Command κ W σ ν)) {g : Game κ W σ}
    (h : g.phase = .stopped) : (play g cs).phase = .stopped :=
  control_play (P := fun c => c.phase = .stopped) Shift.of_stopped cs h

theorem play_punctual {period : Duration} {cap : Nat} (hp : period.nanos ≤ 10 ^ 9)
    (cs : List (Command κ W σ ν)) {g : Game κ W σ} {total : Nat}
    (h : g.control.Punctual period cap total)
    (hd : ∀ d, .advance d ∈ cs → d.nanos + 10 ^ 9 ≤ maxNanos)
    (hr : (play g cs).phase = .running) :
    (play g cs).control.Punctual period cap (total + elapsed cs) := by
  induction cs generalizing g total with
  | nil => exact h
  | cons c rest ih =>
    have hs := (perform_shift c g).punctual h hp fun d hc => hd d (hc ▸ List.mem_cons_self)
    -- a game that leaves the running phase never comes back to it
    rcases hs with hs | hs
    · have hstop := play_phase_of_stopped rest hs
      rw [play, hstop] at hr
      cases hr
    · have hi := ih hs (fun d hm => hd d (List.mem_cons_of_mem _ hm)) hr
      rwa [Nat.add_assoc] at hi

theorem Reachable.rates_eq {c : Config} {g : Game κ W σ} (h : Reachable ν c g) :
    g.tickRate = c.tickRate ∧ g.maxCatchUp = c.maxCatchUp :=
  h.control_induction (P := fun c' => c'.tickRate = c.tickRate ∧ c'.maxCatchUp = c.maxCatchUp)
    (fun hs hc => ⟨hs.rates_eq.1.trans hc.1, hs.rates_eq.2.trans hc.2⟩) ⟨rfl, rfl⟩

theorem Reachable.pending_lt {c : Config} {g : Game κ W σ} (h : Reachable ν c g) :
    ∀ m, g.timer = some m → m.pending.nanos < m.period.nanos :=
  h.control_induction Shift.pending_lt nofun

/-- From the moment a game runs until it no longer does, with `T` the time that has passed since
then and `p` the period, the next tick is due in `p - T % p`, and more time makes as many periods
due as multiples of `p` lie in it, up to the cap. -/
theorem play_schedule {c : Config} {g : Game κ W σ} (hg : Reachable ν c g)
    (hn : g.phase ≠ .running) {k : Command κ W σ ν} (hk : (k.perform g).state.phase = .running)
    (cs : List (Command κ W σ ν)) (hd : ∀ d, .advance d ∈ cs → d.nanos + 10 ^ 9 ≤ maxNanos)
    (hr : (play (k.perform g).state cs).phase = .running) :
    let now := play (k.perform g).state cs
    let T := elapsed cs
    ∃ m, now.timer = some m ∧
      let p := m.period.nanos
      p = (Metronome.periodOfRate c.tickRate).nanos ∧
      now.untilNext.map Duration.nanos = some (p - T % p) ∧
      ∀ d, d.nanos + 10 ^ 9 ≤ maxNanos →
        let due := min (max 1 c.maxCatchUp.toNat) ((T + d.nanos) / p - T / p)
        ((Metronome.advance d : Act ν GameError Metronome Nat) m).result =
          if m.fired + due < 2 ^ 64 then .ok due else .error (.fault .addOverflow) := by
  have hrates := hg.rates_eq
  have hp : (Metronome.periodOfRate c.tickRate).nanos ≤ 10 ^ 9 := by
    rw [← hrates.1]
    exact Metronome.periodOfRate_le g.rate_pos
  have h₀ := (perform_shift k g).punctual_of_running hn hk
  simp only [control, hrates] at h₀
  obtain ⟨_, m, hm, hin⟩ := play_punctual hp cs h₀ hd hr
  rw [Nat.zero_add] at hin
  refine ⟨m, hm, congrArg Duration.nanos hin.period_eq, ?_, ?_⟩
  · have hm' : (play (k.perform g).state cs).timer = some m := hm
    rw [untilNext, hm', Option.map_some, Option.map_some, hin.untilNext_eq, hin.period_eq]
  · intro d hle
    simp only [Metronome.advance_apply, Metronome.hasRoom_iff]
    rw [hin.due_eq hp hle, hin.period_eq]

/-- A pass fails, a child leaves and a backlog is dropped: after 1.05 s, the 63rd period still ends
where it would have. -/
theorem play_schedule_rehearsal :
    let g := rehearse [.start, .add ⟨0⟩, .gesture]
    let now := play ((.gesture : Command _ _ _ Event).perform g).state
      [.advance (.ofNanos 50000000), .remove 0, .tick (ν := Event), .advance (.ofNanos (10 ^ 9))]
    now.phase = .running ∧
      now.untilNext.map Duration.nanos = some (16666667 - 1050000000 % 16666667) := by
  intro g now
  have hg : Reachable Event { needsGesture := true } g := rehearse_reachable (by decide +kernel)
  have hr : now.phase = .running := by decide +kernel
  obtain ⟨m, _, hp, hu, _⟩ := play_schedule hg (by decide +kernel) (by decide +kernel) _
    (by simp; decide) hr
  have hperiod : (Metronome.periodOfRate 60).nanos = 16666667 := by decide +kernel
  rw [hp.trans hperiod] at hu
  exact ⟨hr, hu⟩

end Game

end Stagecraft
