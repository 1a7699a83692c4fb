import Stagecraft.Proofs.Game.Rounds

/-!
The pace of a run on an ideal clock, which moves only while one sleeps. A round sleeps for as long
as the timer asks, but what it feeds back to the timer is the length of a frame, and that is
clamped. Main statement: a run makes one tick in every round and takes one period for it exactly
when the rate is from 4 to 10000 ticks a second, or when the cap hides that a frame counts for
several whole periods (`run_onRate_iff`).
-/

set_option autoImplicit false

namespace Stagecraft

namespace Duration

theorem clamp_nanos (d lo hi : Duration) :
    (d.clamp lo hi).nanos =
      if d.nanos < lo.nanos then lo.nanos else if hi.nanos < d.nanos then hi.nanos else d.nanos := by
  simp only [clamp, LT.lt]
  split
  · rfl
  · split <;> rfl

end Duration

namespace Metronome

/-- A frame of length `d` comes to one tick and leaves nothing over. -/
def Marches (m : Metronome) (d : Duration) : Prop := m.due d = 1 ∧ m.kept d = 0

/-- A timer that starts from nothing marches with frames that last a period and are clamped, if
the clamps leave a period alone. Below the least frame, it takes a cap of one and a period that
divides the frame. -/
theorem marches_iff {m : Metronome} {least most : Duration} (hpending : m.pending.nanos = 0)
    (hperiod : m.period.nanos ≤ 2 ^ 64) (hleast : 0 < least.nanos)
    (hle : least.nanos ≤ most.nanos) :
    m.Marches (m.period.clamp least most) ↔
      least.nanos ≤ m.period.nanos ∧ m.period.nanos ≤ most.nanos ∨
        m.cap.toNat = 1 ∧ m.period.nanos ∣ least.nanos := by
  have hcap := m.cap_pos
  have hpos := m.period_pos
  have hpile : m.pile (m.period.clamp least most) = (m.period.clamp least most).nanos := by
    have hmax := (m.period.clamp least most).le_max
    rw [pile_eq (by omega), hpending, Nat.zero_add]
  rw [Marches, due, kept_eq hperiod, hpile, Duration.clamp_nanos]
  by_cases hlo : m.period.nanos < least.nanos
  · rw [if_pos hlo, ← Nat.dvd_iff_mod_eq_zero]
    constructor
    · rintro ⟨hdue, hdvd⟩
      -- a single period in the frame would leave the rest of it over
      have hmany : m.cap.toNat = 1 ∨ least.nanos / m.period.nanos = 1 := by omega
      rcases hmany with hone | hone
      · exact .inr ⟨hone, hdvd⟩
      · have hmul := Nat.div_mul_cancel hdvd
        rw [hone] at hmul
        omega
    · rintro (⟨hge, _⟩ | ⟨hone, hdvd⟩)
      · omega
      · have hsome : 0 < least.nanos / m.period.nanos := Nat.div_pos (Nat.le_of_lt hlo) hpos
        exact ⟨by omega, hdvd⟩
  · rw [if_neg hlo]
    by_cases hhi : most.nanos < m.period.nanos
    · rw [if_pos hhi, Nat.div_eq_of_lt hhi]
      constructor
      · rintro ⟨hdue, _⟩
        simp at hdue
      · rintro (⟨_, hge⟩ | ⟨_, hdvd⟩)
        · omega
        · have := Nat.le_of_dvd hleast hdvd
          omega
    · rw [if_neg hhi, Nat.div_self hpos, Nat.mod_self]
      constructor
      · intro
        exact .inl ⟨by omega, by omega⟩
      · intro
        exact ⟨by omega, rfl⟩

theorem Marches.fed {m : Metronome} {d : Duration} (h : m.Marches d)
    (hpending : m.pending.nanos = 0) : (m.fed d).Marches d := by
  have hpile : (m.fed d).pile d = m.pile d := by
    rw [pile, pile, Duration.addSat, Duration.addSat, fed_pending, h.2, hpending]
  rw [Marches, due, kept, hpile]
  exact h

theorem periodOfRate_anti {hz hz' : UInt32} (h : 0 < hz.toNat) (hle : hz.toNat ≤ hz'.toNat) :
    (periodOfRate hz').nanos ≤ (periodOfRate hz).nanos := by
  rw [(periodOfRate_eq h).1, (periodOfRate_eq (Nat.lt_of_lt_of_le h hle)).1]
  refine nearest_mono double.one_pos double.one_pos (Nat.mul_le_mul_right _ ?_)
  exact Nat.mul_le_mul_right _ (unitsOfRate_anti h hle)

/-- A tenth of a millisecond is the period of 10000 ticks a second. -/
theorem le_periodOfRate_iff {hz : UInt32} (h : 0 < hz.toNat) :
    100000 ≤ (periodOfRate hz).nanos ↔ hz.toNat ≤ 10000 := by
  have hat : (periodOfRate 10000).nanos = 100000 := by decide +kernel
  have hover : (periodOfRate 10001).nanos < 100000 := by decide +kernel
  constructor
  · intro hp
    refine Nat.not_lt.1 fun hgt => ?_
    have := periodOfRate_anti (show 0 < (10001 : UInt32).toNat by decide) hgt
    omega
  · intro hle
    have := periodOfRate_anti h (show hz.toNat ≤ (10000 : UInt32).toNat from hle)
    omega

/-- A quarter of a second is the period of 4 ticks a second. -/
theorem periodOfRate_le_iff {hz : UInt32} (h : 0 < hz.toNat) :
    (periodOfRate hz).nanos ≤ 250000000 ↔ 4 ≤ hz.toNat := by
  have hat : (periodOfRate 4).nanos = 250000000 := by decide +kernel
  have hunder : 250000000 < (periodOfRate 3).nanos := by decide +kernel
  constructor
  · intro hp
    refine Nat.not_lt.1 fun hlt => ?_
    have := periodOfRate_anti h (show hz.toNat ≤ (3 : UInt32).toNat from Nat.le_of_lt_succ hlt)
    omega
  · intro hle
    have := periodOfRate_anti (show 0 < (4 : UInt32).toNat by decide) hle
    omega

end Metronome

namespace Game

variable {κ W σ ν : Type}

/-- The timer of a game that comes to run is fresh. -/
theorem Shift.timer_of_running {k : Command κ W σ ν} {ok : Bool} {c c' : Control}
    (h : Shift k ok c c') (hp : c.phase ≠ .running) (hr : c'.phase = .running) :
    ∃ m, c'.timer = some m ∧ m.period = Metronome.periodOfRate c.tickRate ∧
      m.cap.toNat = max 1 c.maxCatchUp.toNat ∧ m.pending.nanos = 0 ∧ m.fired = 0 := by
  have hfresh {m : Metronome} (hm : Metronome.ofRate? c.tickRate = .ok (some m)) :
      (m.withCap c.maxCatchUp).period = Metronome.periodOfRate c.tickRate ∧
        (m.withCap c.maxCatchUp).cap.toNat = max 1 c.maxCatchUp.toNat ∧
        (m.withCap c.maxCatchUp).pending.nanos = 0 ∧ (m.withCap c.maxCatchUp).fired = 0 := by
    obtain ⟨hperiod, hpending, hfired⟩ := Metronome.ofRate?_eq_some hm
    rw [Metronome.withCap_period, Metronome.withCap_pending, Metronome.withCap_fired]
    exact ⟨hperiod, Metronome.withCap_cap m _, congrArg Duration.nanos hpending, hfired⟩
  cases h with
  | keep => exact absurd hr hp
  | halt => cases hr
  | feed => exact absurd hr hp
  | reveal => cases hr
  | start _ _ hm => exact ⟨_, rfl, hfresh hm⟩
  | gesture _ hm => exact ⟨_, rfl, hfresh hm⟩

variable [Actor κ W ν] [Surface σ ν]

/-- No child stands in the way of the pass that a game makes next: none faults, none asks for a
stop, and all can be drawn. -/
structure Willing (ν : Type) [Actor κ W ν] [Surface σ ν] (g : Game κ W σ) : Prop where
  turns : (g.turns ν).result = .ok false
  draws : ((Actor.renderAll g.children : Act ν RenderError (W × σ) Unit)
    ((g.turns ν).state.2, g.surface)).result = .ok ()

def ticked (ν : Type) [Actor κ W ν] [Surface σ ν] : Nat → Game κ W σ → Game κ W σ
  | 0, g => g
  | n + 1, g => ticked ν n ((tick : Act ν GameError (Game κ W σ) Unit) g).state

/-- No child ever stands in the way of a pass. -/
def Untiring (ν : Type) [Actor κ W ν] [Surface σ ν] (g : Game κ W σ) : Prop :=
  ∀ n, (ticked ν n g).Willing ν

theorem tick_of_willing {g : Game κ W σ} (h : g.Willing ν) (hr : g.hasRoom = true) :
    let o := (tick : Act ν GameError (Game κ W σ) Unit) g
    o.result = .ok () ∧ Played g o.state := by
  obtain ⟨ht, hd⟩ := h
  rcases hturns : g.turns ν with ⟨x | asked, p, l⟩ <;> rw [hturns] at ht hd <;> cases ht
  obtain ⟨m, _, hu⟩ := update_eq_ok (ε := GameError) hturns hr
  have hcounted : Played g (g.counted p) := ⟨_, _, _, _, rfl⟩
  simp only [tick, Act.bind_apply, hu, Bool.false_and, Bool.false_eq_true, if_false,
    Outcome.after_result, Outcome.after_state]
  refine ⟨?_, hcounted.trans (render_played _)⟩
  rcases hdraws : (Actor.renderAll g.children : Act ν RenderError (W × σ) Unit) (p.2, g.surface)
    with ⟨x | _, q, l'⟩ <;> rw [hdraws] at hd <;> cases hd
  have hdraws' : (Actor.renderAll (g.counted p).children : Act ν RenderError (W × σ) Unit)
      ((g.counted p).world, (g.counted p).surface) = ⟨.ok (), q, l'⟩ := hdraws
  simp [render, Act.bind_apply, Act.zoom_apply, Act.mapError_apply, hdraws', Outcome.mapState]

theorem ticked_retime (f : Metronome → Metronome) (n : Nat) (g : Game κ W σ) :
    ticked ν n (g.retime f) = (ticked ν n g).retime f := by
  induction n generalizing g with
  | zero => rfl
  | succ n ih =>
    rw [ticked, tick_retime]
    exact ih _

theorem Untiring.after_tick {g : Game κ W σ} (h : g.Untiring ν) (f : Metronome → Metronome) :
    (((tick : Act ν GameError (Game κ W σ) Unit) g).state.retime f).Untiring ν := by
  intro n
  rw [ticked_retime]
  exact ⟨(h (n + 1)).turns, (h (n + 1)).draws⟩

theorem advance_of_willing {g : Game κ W σ} {m : Metronome} {d : Duration} (hm : g.timer = some m)
    (hg : g.isRunning = true) (hw : g.Willing ν) (hr : g.hasRoom = true)
    (hfired : m.hasRoom d = true) (hdue : m.due d = 1) :
    ((advance d : Act ν GameError (Game κ W σ) Nat) g).result = .ok 1 ∧
      ((advance d : Act ν GameError (Game κ W σ) Nat) g).state =
        ((tick : Act ν GameError (Game κ W σ) Unit) g).state.retime fun _ => m.fed d := by
  have hretime : { g with timer := some (m.fed d) } = g.retime fun _ => m.fed d := by
    rw [retime, hm]
    rfl
  have hrunning : (g.retime fun _ => m.fed d).isRunning = true := hg
  rw [advance_apply hm, if_pos hfired, hdue, hretime, ticksWhileRunning_succ hrunning,
    Act.bind_apply, tick_retime, Outcome.mapState_result, (tick_of_willing hw hr).1]
  exact ⟨rfl, rfl⟩

omit [Actor κ W ν] [Surface σ ν] in
theorem conclude_of_no_limits {α χ : Type} [Clock χ] (started : Nat) (x : α) (g : Game κ W σ)
    (c : χ) :
    (conclude {} started x : Act ν RunError (Game κ W σ × χ) α) (g, c) = ⟨.ok x, (g, c), []⟩ := rfl

/-- A running game with its timer, on an ideal clock that the stopwatch has just been set by. -/
structure Timed (g : Game κ W σ) (m : Metronome) (c : IdealClock) (w : Stopwatch) : Prop where
  running : g.isRunning = true
  timer : g.timer = some m
  last : w.last = c.now

def frame (m : Metronome) (w : Stopwatch) : Duration := m.untilNext.clamp w.least w.most

def lap (m : Metronome) (w : Stopwatch) : Stopwatch :=
  { w with last := w.last + m.untilNext.nanos, frames := w.frames + 1 }

/-- On an ideal clock a round is the time that its frame lets pass. -/
theorem round_of_timed {g : Game κ W σ} {m : Metronome} {c : IdealClock} {w : Stopwatch}
    (h : Timed g m c w) (started : Nat) :
    let o := (round {} started w :
      Act ν RunError (Game κ W σ × IdealClock) (Nat × Stopwatch)) (g, c)
    let a := (advance (frame m w) : Act ν GameError (Game κ W σ) Nat) g
    o.state = (a.state, ⟨c.now + m.untilNext.nanos⟩) ∧
      ∀ ran w', o.result = .ok (ran, w') ↔ a.result = .ok ran ∧ w' = lap m w := by
  have hwakes : g.wakes c = ⟨c.now + m.untilNext.nanos⟩ := by
    rw [wakes, untilNext, h.timer]
    rfl
  have htick : w.tick (c.now + m.untilNext.nanos) = (⟨frame m w, w.frames⟩, lap m w) := by
    rw [Stopwatch.tick, h.last, Nat.add_sub_cancel_left, Duration.ofNanos_nanos, lap, h.last]
    rfl
  have hread : Clock.read (IdealClock.mk (c.now + m.untilNext.nanos)) =
      (c.now + m.untilNext.nanos, IdealClock.mk (c.now + m.untilNext.nanos)) := rfl
  simp only [round_apply, hwakes, hread, htick]
  rcases (advance (frame m w) : Act ν GameError (Game κ W σ) Nat) g with
    ⟨(e | f) | ran, g', said⟩
  · exact ⟨rfl, by simp⟩
  · exact ⟨rfl, by simp⟩
  · simp only [conclude_of_no_limits, Outcome.after]
    exact ⟨trivial, by simp [eq_comm]⟩

/-- The run is still going on after `n` rounds, in which it made `n` ticks in `n` periods. -/
structure OnRate {α : Type} (g : Game κ W σ) (c : IdealClock) (period : Duration) (n : Nat)
    (o : Outcome ν RunError (Game κ W σ × IdealClock) (Option α)) : Prop where
  going : o.result = .ok none
  ticks : o.state.1.ticks = g.ticks + n
  time : o.state.2.now = c.now + n * period.nanos

/-- A round after which the run goes on has made all ticks that its frame made due. -/
theorem round_of_going {g g' : Game κ W σ} {m : Metronome} {c c' : IdealClock} {w w' : Stopwatch}
    {ran started : Nat} {said : List (Entry ν)} (h : Timed g m c w)
    (hr : round {} started w (g, c) = ⟨.ok (ran, w'), (g', c'), said⟩)
    (hg : g'.isRunning = true) :
    Timed g' (m.fed (frame m w)) c' w' ∧ g'.ticks = g.ticks + m.due (frame m w) ∧
      c'.now = c.now + m.untilNext.nanos ∧ w'.least = w.least ∧ w'.most = w.most := by
  obtain ⟨hstate, hresult⟩ := round_of_timed (ν := ν) h started
  rw [hr] at hstate hresult
  obtain ⟨hok, rfl⟩ := (hresult ran w').1 rfl
  obtain ⟨rfl, rfl⟩ := Prod.mk.inj hstate
  obtain ⟨ps, hs, _, ⟨hctl, rfl⟩ | ⟨hctl, _⟩⟩ := advance_stretch h.timer h.running hok
  · refine ⟨⟨hg, congrArg Control.timer hctl, ?_⟩, hs.ticks, rfl, rfl, rfl⟩
    rw [lap, h.last]
  · rw [isRunning_of_halted hctl] at hg
    cases hg

/-- The game is at a tick, its timer marches with the frames of the stopwatch, and no child will
stand in the way. -/
structure InStep (ν : Type) [Actor κ W ν] [Surface σ ν] (g : Game κ W σ) (m : Metronome)
    (c : IdealClock) (w : Stopwatch) : Prop where
  timed : Timed g m c w
  untiring : g.Untiring ν
  pending : m.pending.nanos = 0
  fired : m.fired ≤ g.ticks
  marches : m.Marches (m.period.clamp w.least w.most)

/-- A round of a game in step makes one tick in one period and leaves it in step. -/
theorem InStep.round {g : Game κ W σ} {m : Metronome} {c : IdealClock} {w : Stopwatch}
    (h : InStep ν g m c w) (started : Nat) (hroom : g.ticks + 1 < 2 ^ 64) :
    ∃ (g' : Game κ W σ) (m' : Metronome) (c' : IdealClock) (w' : Stopwatch) (said : List (Entry ν)),
      Game.round {} started w (g, c) = ⟨.ok (1, w'), (g', c'), said⟩ ∧ InStep ν g' m' c' w' ∧
        g'.ticks = g.ticks + 1 ∧ c'.now = c.now + m.period.nanos ∧ m'.period = m.period := by
  obtain ⟨htimed, hu, hpending, hfired, hmarch⟩ := h
  have huntil : m.untilNext = m.period := Metronome.untilNext_of_fresh hpending
  have hframe : frame m w = m.period.clamp w.least w.most := by rw [frame, huntil]
  rw [← hframe] at hmarch
  obtain ⟨hdue, hkept⟩ := hmarch
  have hgroom : g.hasRoom = true := by
    rw [hasRoom, decide_eq_true_eq]
    omega
  have hmroom : m.hasRoom (frame m w) = true := by
    rw [Metronome.hasRoom_iff, hdue]
    omega
  obtain ⟨hok, hstate⟩ := advance_of_willing htimed.timer htimed.running (hu 0) hgroom hmroom hdue
  obtain ⟨hstate', hresult⟩ := round_of_timed (ν := ν) htimed started
  rcases hr : (Game.round {} started w :
      Act ν RunError (Game κ W σ × IdealClock) (Nat × Stopwatch)) (g, c) with ⟨x, ⟨g', c'⟩, said⟩
  rw [hr] at hstate' hresult
  obtain rfl : x = .ok (1, lap m w) := (hresult 1 (lap m w)).2 ⟨hok, rfl⟩
  have hg' : g' = ((tick : Act ν GameError (Game κ W σ) Unit) g).state.retime
      fun _ => m.fed (frame m w) := (Prod.mk.inj hstate').1.trans hstate
  have hon : g'.isRunning = true := by
    rw [hg']
    exact (tick_of_willing (hu 0) hgroom).2.isRunning_eq.trans htimed.running
  obtain ⟨hnext, hticks, hnow, hleast, hmost⟩ := round_of_going htimed hr hon
  rw [hdue] at hticks
  refine ⟨g', m.fed (frame m w), c', lap m w, said, rfl, ⟨hnext, hg' ▸ hu.after_tick _, ?_, ?_, ?_⟩,
    hticks, by rw [hnow, huntil], Metronome.fed_period _ _⟩
  · rw [Metronome.fed_pending, hkept]
  · rw [Metronome.fed_fired hmroom, hdue]
    omega
  · rw [hleast, hmost, Metronome.fed_period, ← hframe]
    exact Metronome.Marches.fed ⟨hdue, hkept⟩ hpending

theorem InStep.rounds_onRate (n : Nat) {g : Game κ W σ} {m : Metronome} {c : IdealClock}
    {w : Stopwatch} {started : Nat} (h : InStep ν g m c w) (hroom : g.ticks + n < 2 ^ 64) :
    OnRate g c m.period n ((rounds {} started n w :
      Act ν RunError (Game κ W σ × IdealClock) (Option Nat)) (g, c)) := by
  induction n generalizing g m c w with
  | zero =>
    rw [rounds_zero h.timed.running]
    exact ⟨rfl, rfl, by simp⟩
  | succ n ih =>
    obtain ⟨g', m', c', w', said, hr, hnext, hticks, hnow, hperiod⟩ := h.round started (by omega)
    obtain ⟨hgoing, hlater, htime⟩ := ih hnext (by omega)
    rw [rounds_of_ok h.timed.running hr]
    refine ⟨?_, hlater.trans (by omega), htime.trans ?_⟩
    · rw [Outcome.after_result, Act.map_apply, hgoing]
      rfl
    · rw [hnow, hperiod, Nat.add_one_mul]
      omega

theorem round_of_rounds_going {g : Game κ W σ} {m : Metronome} {c : IdealClock} {w : Stopwatch}
    {started n : Nat} (h : Timed g m c w)
    (hn : ((rounds {} started (n + 1) w :
      Act ν RunError (Game κ W σ × IdealClock) (Option Nat)) (g, c)).result = .ok none) :
    ∃ g' c' w', Timed g' (m.fed (frame m w)) c' w' ∧ g'.ticks = g.ticks + m.due (frame m w) ∧
      c'.now = c.now + m.untilNext.nanos ∧
      ((rounds {} started n w' : Act ν RunError _ (Option Nat)) (g', c')).result = .ok none ∧
      ((rounds {} started (n + 1) w : Act ν RunError _ (Option Nat)) (g, c)).state =
        ((rounds {} started n w' : Act ν RunError _ (Option Nat)) (g', c')).state := by
  rcases hr : (round {} started w :
      Act ν RunError (Game κ W σ × IdealClock) (Nat × Stopwatch)) (g, c) with
    ⟨x | ⟨ran, w'⟩, ⟨g', c'⟩, said⟩
  · rw [rounds_of_error h.running hr] at hn
    cases hn
  · rw [rounds_of_ok h.running hr] at hn ⊢
    rw [Outcome.after_result, Act.map_apply] at hn
    cases hg : g'.isRunning with
    | false =>
      rw [rounds_of_not_running hg] at hn
      cases hn
    | true =>
      obtain ⟨htimed, hticks, hnow, _⟩ := round_of_going h hr hg
      refine ⟨g', c', w', htimed, hticks, hnow, ?_, rfl⟩
      rcases ho : (rounds {} started n w' :
          Act ν RunError (Game κ W σ × IdealClock) (Option Nat)) (g', c') with
        ⟨x | _ | more, s, rest⟩
      · rw [ho] at hn
        cases hn
      · rfl
      · rw [ho] at hn
        cases hn

/-- Two rounds show whether a timer that starts from nothing marches with its frames. -/
theorem marches_of_onRate {g : Game κ W σ} {m : Metronome} {c : IdealClock} {w : Stopwatch}
    {started : Nat} (h : Timed g m c w) (hpending : m.pending.nanos = 0)
    (h₁ : OnRate g c m.period 1 ((rounds {} started 1 w :
      Act ν RunError (Game κ W σ × IdealClock) (Option Nat)) (g, c)))
    (h₂ : OnRate g c m.period 2 ((rounds {} started 2 w :
      Act ν RunError (Game κ W σ × IdealClock) (Option Nat)) (g, c))) :
    m.Marches (frame m w) := by
  constructor
  · obtain ⟨g', c', w', htimed, hticks, _, _, hstate⟩ := round_of_rounds_going h h₁.going
    have hone : g'.ticks = g.ticks + 1 := by
      have hlater := h₁.ticks
      rwa [hstate, rounds_zero htimed.running] at hlater
    omega
  · -- what is left over shortens the second sleep
    obtain ⟨g', c', w', htimed, _, hnow, hgoing, hstate⟩ := round_of_rounds_going h h₂.going
    obtain ⟨g'', c'', w'', htimed', _, hnow', _, hstate'⟩ := round_of_rounds_going htimed hgoing
    have htwo : c''.now = c.now + 2 * m.period.nanos := by
      have hlater := h₂.time
      rwa [hstate, hstate', rounds_zero htimed'.running] at hlater
    have hlt := m.kept_lt (frame m w)
    rw [Metronome.untilNext_nanos] at hnow hnow'
    rw [Metronome.fed_pending, Metronome.fed_period] at hnow'
    omega

omit [Actor κ W ν] [Surface σ ν] in
theorem opening_most {χ : Type} [Clock χ] (c : χ) :
    (opening c).stopwatch.most = .ofNanos 250000000 := rfl

omit [Actor κ W ν] [Surface σ ν] in
theorem Timed.opening {g : Game κ W σ} {m : Metronome} (hm : g.timer = some m)
    (hg : g.isRunning = true) (c : IdealClock) :
    Timed g m (opening c).clock (opening c).stopwatch := ⟨hg, hm, rfl⟩

theorem run_onRate_iff_rounds {g : Game κ W σ} (hg : g.isRunning = true) (c : IdealClock)
    (period : Duration) (n : Nat) :
    OnRate g c period n ((run {} n :
        Act ν RunError (Game κ W σ × IdealClock) (Option Summary)) (g, c)) ↔
      OnRate g c period n ((rounds {} (opening c).started n (opening c).stopwatch :
        Act ν RunError (Game κ W σ × IdealClock) (Option Nat)) (g, (opening c).clock)) := by
  have hidle : g.idleNotice ν = [] := by rw [idleNotice, hg, if_pos rfl]
  rw [run_apply, hidle, Outcome.after_nil]
  rcases (rounds {} (opening c).started n (opening c).stopwatch :
      Act ν RunError (Game κ W σ × IdealClock) (Option Nat)) (g, (opening c).clock) with
    ⟨x | _ | ran, ⟨g', c'⟩, said⟩
  · constructor <;> rintro ⟨⟨⟩, _, _⟩
  · constructor
    · rintro ⟨_, hticks, htime⟩
      exact ⟨rfl, hticks, htime⟩
    · rintro ⟨_, hticks, htime⟩
      exact ⟨rfl, hticks, htime⟩
  · constructor <;> rintro ⟨⟨⟩, _, _⟩

/-- A game that has just come to run, with children that never stop it or fail, keeps its rate on
an ideal clock at 4 to 10000 ticks a second. A longer period is cut to the most that a frame can
count, and a shorter one drawn out to the least; the latter goes unnoticed if no more than one tick
is made at a time and a frame is a number of whole periods. -/
theorem run_onRate_iff {c : Config} {g : Game κ W σ} (hg : Reachable ν c g)
    (hn : g.phase ≠ .running) {k : Command κ W σ ν} (hk : (k.perform g).state.phase = .running)
    (hu : (k.perform g).state.Untiring ν) (hroom : (k.perform g).state.ticks + 2 < 2 ^ 64)
    (clock : IdealClock) :
    let now := (k.perform g).state
    (∀ n, now.ticks + n < 2 ^ 64 → OnRate now clock (Metronome.periodOfRate c.tickRate) n
        ((run {} n : Act ν RunError (Game κ W σ × IdealClock) (Option Summary)) (now, clock))) ↔
      4 ≤ c.tickRate.toNat ∧ c.tickRate.toNat ≤ 10000 ∨
        c.maxCatchUp.toNat ≤ 1 ∧ (Metronome.periodOfRate c.tickRate).nanos ∣ 100000 := by
  intro now
  have hon : now.isRunning = true := by rw [isRunning, hk]; rfl
  have hrates := hg.rates_eq
  have hpos : 0 < c.tickRate.toNat := hrates.1 ▸ g.rate_pos
  obtain ⟨m, hm, hperiod, hcap, hpending, hfired⟩ := (perform_shift k g).timer_of_running hn hk
  rw [show g.control.tickRate = c.tickRate from hrates.1] at hperiod
  rw [show g.control.maxCatchUp = c.maxCatchUp from hrates.2] at hcap
  have htimed : Timed now m (opening clock).clock (opening clock).stopwatch :=
    .opening hm hon clock
  have hmarch : m.Marches (frame m (opening clock).stopwatch) ↔
      4 ≤ c.tickRate.toNat ∧ c.tickRate.toNat ≤ 10000 ∨
        c.maxCatchUp.toNat ≤ 1 ∧ (Metronome.periodOfRate c.tickRate).nanos ∣ 100000 := by
    have hle := Metronome.periodOfRate_le hpos
    have hleast : (Duration.ofNanos 100000).nanos = 100000 := by decide
    have hmost : (Duration.ofNanos 250000000).nanos = 250000000 := by decide
    have hone : max 1 c.maxCatchUp.toNat = 1 ↔ c.maxCatchUp.toNat ≤ 1 := by omega
    rw [frame, Metronome.untilNext_of_fresh hpending, opening_least, opening_most,
      Metronome.marches_iff hpending (by rw [hperiod]; omega) (by decide) (by decide), hleast, hmost,
      hcap, hone, hperiod, Metronome.le_periodOfRate_iff hpos, Metronome.periodOfRate_le_iff hpos,
      And.comm (a := c.tickRate.toNat ≤ 10000)]
  rw [← hmarch, ← hperiod]
  constructor
  · intro hrate
    have h₁ := (run_onRate_iff_rounds hon clock m.period 1).1 (hrate 1 (Nat.lt_of_succ_lt hroom))
    have h₂ := (run_onRate_iff_rounds hon clock m.period 2).1 (hrate 2 hroom)
    exact marches_of_onRate htimed hpending h₁ h₂
  · intro hm' n hlt
    rw [run_onRate_iff_rounds hon]
    rw [frame, Metronome.untilNext_of_fresh hpending] at hm'
    exact InStep.rounds_onRate n ⟨htimed, hu, hpending, hfired ▸ Nat.zero_le _, hm'⟩ hlt

/-- Nobody is there to stop a game without children or to fail in it. -/
theorem untiring_of_no_children {g : Game κ W σ} (h : g.children = []) : g.Untiring ν := by
  intro n
  induction n generalizing g with
  | zero =>
    rw [ticked]
    refine ⟨?_, ?_⟩
    · rw [turns, h]
      rfl
    · rw [h]
      rfl
  | succ n ih => exact ih ((tick_passed g).children_eq.trans h)

/-- Once the child that could not be drawn is gone, the game runs on with 60 ticks a second. -/
theorem run_onRate_iff_rehearsal :
    let now := ((.gesture : Command _ _ _ Event).perform
      (rehearse [.start, .add ⟨0⟩, .gesture, .remove 0])).state
    now.ticks = 2 ∧ ∀ n, 2 + n < 2 ^ 64 → OnRate now ⟨7⟩ (Metronome.periodOfRate 60) n
      ((run {} n : Act Event RunError _ (Option Summary)) (now, IdealClock.mk 7)) := by
  intro now
  have hticks : now.ticks = 2 := by decide +kernel
  have hg : Reachable Event { needsGesture := true }
      (rehearse [.start, .add ⟨0⟩, .gesture, .remove 0]) := rehearse_reachable (by decide +kernel)
  have hrate := (run_onRate_iff hg (by decide +kernel) (k := .gesture) (by decide +kernel)
    (untiring_of_no_children (by decide +kernel)) (by decide +kernel) ⟨7⟩).2
    (.inl ⟨by decide, by decide⟩)
  exact ⟨hticks, fun n hn => hrate n (by rw [hticks]; exact hn)⟩

/-- A game without children that makes three ticks a second. -/
def leisurely : Game MemberId Troupe Screen where
  surface := { width := 4, height := 3 }
  tickRate := 3
  maxCatchUp := Metronome.defaultCap
  data := ({} : Blackboard).set Blackboard.firstCycle (.bool true)
  world := {}
  rate_pos := by decide

/-- After the first round of such a game a third of a second is over and no tick is made. -/
theorem run_misses_rate :
    let now := ((.start : Command _ _ _ Event).perform leisurely).state
    ((create leisurely.surface leisurely.world { tickRate := 3 } :
        Act Event GameError Unit (Game MemberId Troupe Screen)) ()).result = .ok leisurely ∧
      now.phase = .running ∧ now.Untiring Event ∧
      ((run {} 1 : Act Event RunError _ (Option Summary)) (now, IdealClock.mk 0)).state.2.now =
        (Metronome.periodOfRate 3).nanos ∧
      ((run {} 1 : Act Event RunError _ (Option Summary)) (now, IdealClock.mk 0)).state.1.ticks =
        now.ticks ∧
      ¬OnRate now ⟨0⟩ (Metronome.periodOfRate 3) 1
        ((run {} 1 : Act Event RunError _ (Option Summary)) (now, IdealClock.mk 0)) := by
  intro now
  have hticks : ((run {} 1 : Act Event RunError _ (Option Summary))
      (now, IdealClock.mk 0)).state.1.ticks = now.ticks := by decide +kernel
  refine ⟨rfl, by decide +kernel, untiring_of_no_children (by decide +kernel), by decide +kernel,
    hticks, ?_⟩
  rintro ⟨_, hlater, _⟩
  omega

end Game

end Stagecraft
