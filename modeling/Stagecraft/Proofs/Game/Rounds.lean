import Stagecraft.Game.Run
import Stagecraft.Proofs.Game.CatchUp
import Stagecraft.Proofs.Game.Schedule

/-!
Running a game against a clock, round by round. Nothing is assumed of the clock. Main statements:
a run up to a number of ticks counts them right and makes at most one catch-up too many
(`run_accounts`); and it ends, since a round that makes no tick and does not end the run brings the
timer nearer to its next period by the least length of a frame (`run_ends`).
-/

set_option autoImplicit false

namespace Stagecraft

namespace Stopwatch

theorem least_le_length (w : Stopwatch) (now : Nat) :
    w.least.nanos ≤ (w.tick now).1.length.nanos := by
  have h : w.least.nanos ≤ w.most.nanos := w.least_le_most
  simp only [tick, Duration.clamp]
  split
  · exact Nat.le_refl _
  · split
    · exact h
    · rename_i hlt _
      exact Nat.not_lt.1 hlt

@[simp] theorem tick_least (w : Stopwatch) (now : Nat) : (w.tick now).2.least = w.least := rfl

end Stopwatch

namespace Metronome

/-- A metronome that reports nothing has piled all of the time up. -/
theorem untilNext_fed {m : Metronome} {d : Duration} (h : m.due d = 0) :
    0 < (m.fed d).untilNext.nanos ∧
      (m.fed d).untilNext.nanos + d.nanos = m.untilNext.nanos := by
  have hcap := m.cap_pos
  have hpos := m.period_pos
  have hper := m.period.le_max
  have hq : m.pile d / m.period.nanos = 0 := by
    unfold due at h
    omega
  have hlt : m.pile d < m.period.nanos := (Nat.div_eq_zero_iff_lt hpos).1 hq
  have hfits : m.pending.nanos + d.nanos ≤ maxNanos := by
    refine Nat.not_lt.1 fun hgt => ?_
    have hsat : m.pile d = maxNanos := Nat.min_eq_right (Nat.le_of_lt hgt)
    omega
  have hpile := pile_eq hfits
  have hkept : m.kept d = m.pending.nanos + d.nanos := by
    rw [kept, hq, if_neg (Nat.not_lt_zero _), Nat.mod_eq_of_lt hlt, hpile]
  rw [untilNext_nanos, untilNext_nanos, fed_pending, fed_period]
  omega

end Metronome

namespace Game

variable {κ W σ ν χ : Type}

theorem Shift.cap_eq {k : Command κ W σ ν} {ok : Bool} {c c' : Control} (h : Shift k ok c c')
    (hc : ∀ m, c.timer = some m → m.cap.toNat = max 1 c.maxCatchUp.toNat) :
    ∀ m, c'.timer = some m → m.cap.toNat = max 1 c'.maxCatchUp.toNat := by
  intro m' hm'
  cases h with
  | keep => exact hc m' hm'
  | halt => cases hm'
  | @feed d _ _ m hm =>
    cases hm'
    exact hc m hm
  | reveal => exact hc m' hm'
  | start => cases hm'; exact Metronome.withCap_cap _ _
  | gesture => cases hm'; exact Metronome.withCap_cap _ _

variable [Actor κ W ν] [Surface σ ν]

theorem Reachable.cap_eq {c : Config} {g : Game κ W σ} (h : Reachable ν c g) :
    ∀ m, g.timer = some m → m.cap.toNat = max 1 c.maxCatchUp.toNat := by
  have hcap := h.control_induction
    (P := fun c' => ∀ m, c'.timer = some m → m.cap.toNat = max 1 c'.maxCatchUp.toNat)
    Shift.cap_eq nofun
  intro m hm
  rw [← h.rates_eq.2]
  exact hcap m hm

/-- Ticks go on to the last one, unless a child asks for a stop. -/
theorem Repeats.stretch {n ran : Nat} {g g' : Game κ W σ} {calls : List (Call κ W σ ν)}
    (h : Repeats n g calls g' (.ok ran)) (hg : g.isRunning = true) :
    ∃ ps, Stretch g (calls.flatMap (·.outcome.said)) ran ps g' ∧ ran ≤ n ∧
      (g'.control = g.control ∧ ran = n ∨
        g'.control = g.control.halted ∧ ∃ u ∈ ps, u.stopAsked = true) := by
  cases h with
  | spent h hn =>
    obtain ⟨hctl, _, ps, hst⟩ := h.stretch hg
    exact ⟨ps, hn ▸ hst, Nat.le_refl _, .inl ⟨hctl, rfl⟩⟩
  | @stopped g'' past h hn hk hr =>
    obtain ⟨hctl, _, ps, hst⟩ := h.stretch hg
    have hon : g''.isRunning = true := isRunning_of_phase (congrArg Control.phase hctl) hg
    obtain ⟨u, r, hmakes, hu, hlast⟩ := Call.ofTick_stops hon hk hr
    rw [hctl] at hlast
    refine ⟨ps ++ [u, r], ?_, hn, .inr ⟨hlast, u, by simp, hu⟩⟩
    simpa using hst.append hmakes.stretch

theorem ticksWhileRunning_stretch (n : Nat) {g : Game κ W σ} (hg : g.isRunning = true) {ran : Nat}
    (h : ((ticksWhileRunning n : Act ν GameError (Game κ W σ) Nat) g).result = .ok ran) :
    let o := (ticksWhileRunning n : Act ν GameError (Game κ W σ) Nat) g
    ∃ ps, Stretch g o.said ran ps o.state ∧ ran ≤ n ∧
      (o.state.control = g.control ∧ ran = n ∨
        o.state.control = g.control.halted ∧ ∃ u ∈ ps, u.stopAsked = true) := by
  obtain ⟨calls, hrepeats, hsaid⟩ := ticksWhileRunning_repeats (ν := ν) n hg
  rw [h] at hrepeats
  have hstretch := hrepeats.stretch hg
  rwa [← hsaid] at hstretch

theorem advance_stretch {g : Game κ W σ} {m : Metronome} {d : Duration} {ran : Nat}
    (hm : g.timer = some m) (hg : g.isRunning = true)
    (h : ((advance d : Act ν GameError (Game κ W σ) Nat) g).result = .ok ran) :
    let o := (advance d : Act ν GameError (Game κ W σ) Nat) g
    ∃ ps, Stretch g o.said ran ps o.state ∧ ran ≤ m.cap.toNat ∧
      (o.state.control = g.control.fed m d ∧ ran = m.due d ∨
        o.state.control = g.control.halted ∧ ∃ u ∈ ps, u.stopAsked = true) := by
  rw [advance_apply hm] at h ⊢
  cases hr : m.hasRoom d with
  | false =>
    rw [hr] at h
    cases h
  | true =>
    rw [hr] at h
    have hg' : { g with timer := some (m.fed d) }.isRunning = true := hg
    obtain ⟨ps, hst, hle, hend⟩ := ticksWhileRunning_stretch (ν := ν) (m.due d) hg' h
    refine ⟨ps, ⟨⟨hst.passes.enacts, ?_⟩, hst.children, hst.ticks⟩, ?_, hend⟩
    · simpa [notesOf_dropNotice] using hst.passes.noted
    · exact Nat.le_trans hle (Nat.min_le_left _ _)

section Rounds

variable [Clock χ]

omit [Actor κ W ν] [Surface σ ν] in
theorem readClock_apply {ε : Type} (g : Game κ W σ) (c : χ) :
    (readClock : Act ν ε (Game κ W σ × χ) Nat) (g, c) =
      ⟨.ok (Clock.read c).1, (g, (Clock.read c).2), []⟩ := rfl

omit [Actor κ W ν] [Surface σ ν] in
theorem sleep_apply {ε : Type} (d : Duration) (g : Game κ W σ) (c : χ) :
    (sleep d : Act ν ε (Game κ W σ × χ) Unit) (g, c) = ⟨.ok (), (g, Clock.sleep d c), []⟩ := rfl

def ticksReached (l : Limits) (g : Game κ W σ) : Prop := ∃ n, l.maxTicks = some n ∧ n ≤ g.ticks

omit [Actor κ W ν] [Surface σ ν] in
/-- Limits are reached by ticks, or by time if they set any. The game is left as it is. -/
theorem limitReached_apply (l : Limits) (started : Nat) (g : Game κ W σ) (c : χ) :
    ∃ yes c', (limitReached l started : Act ν RunError (Game κ W σ × χ) Bool) (g, c) =
        ⟨.ok yes, (g, c'), []⟩ ∧
      (ticksReached l g → yes = true) ∧
      (yes = true → ticksReached l g ∨ l.maxDuration.isSome = true) := by
  have hticks : ticksReached l g ↔ (l.maxTicks.any fun n => decide (n ≤ g.ticks)) = true := by
    cases hl : l.maxTicks <;> simp [ticksReached, hl]
  cases hd : l.maxDuration with
  | none =>
    refine ⟨_, c, ?_, hticks.1, fun h => .inl (hticks.2 h)⟩
    simp [limitReached, Act.bind_apply, hd]
  | some d =>
    let late := decide (d ≤ .ofNanos ((Clock.read c).1 - started))
    refine ⟨(l.maxTicks.any fun n => decide (n ≤ g.ticks)) || late, (Clock.read c).2, ?_, ?_,
      fun _ => .inr rfl⟩
    · simp only [limitReached, Act.bind_apply, Act.get_apply, hd, readClock_apply]
      rfl
    · intro h
      rw [hticks.1 h, Bool.true_or]

def wakes (g : Game κ W σ) (c : χ) : χ :=
  match g.untilNext with
  | some d => Clock.sleep d c
  | none => c

/-- The end of a round: the game is stopped if a limit is reached. -/
def conclude {α : Type} (l : Limits) (started : Nat) (x : α) :
    Act ν RunError (Game κ W σ × χ) α := do
  if ← limitReached l started then
    Act.log .info s!"runtime limit reached after {(← get).1.ticks} ticks"
    onGame stop
  return x

theorem round_apply (l : Limits) (started : Nat) (w : Stopwatch) (g : Game κ W σ) (c : χ) :
    (round l started w : Act ν RunError (Game κ W σ × χ) (Nat × Stopwatch)) (g, c) =
      let now := Clock.read (g.wakes c)
      let t := w.tick now.1
      match (advance t.1.length : Act ν GameError (Game κ W σ) Nat) g with
      | ⟨.error (.fault f), g', said⟩ => ⟨.error (.fault f), (g', now.2), said⟩
      | ⟨.error (.error e), g', said⟩ => ⟨.error (.error ⟨g'.ticks, e⟩), (g', now.2), said⟩
      | ⟨.ok ran, g', said⟩ => (conclude l started (ran, t.2) (g', now.2)).after said := by
  rcases h : (advance (w.tick (Clock.read (g.wakes c)).1).1.length :
      Act ν GameError (Game κ W σ) Nat) g with ⟨(e | f) | ran, g', said⟩ <;>
  cases hu : g.untilNext <;>
  simp only [wakes, hu] at h <;>
  simp [round, conclude, wakes, hu, Act.bind_apply, sleep_apply, readClock_apply, Act.attempt,
    onGame, Act.zoom_apply, Outcome.mapState, h, Outcome.after]

omit [Actor κ W ν] [Surface σ ν] in
theorem conclude_apply {α : Type} (l : Limits) (started : Nat) (x : α) (g : Game κ W σ) (c : χ) :
    ∃ c', (conclude l started x : Act ν RunError (Game κ W σ × χ) α) (g, c) =
        ⟨.ok x, (g, c'), []⟩ ∧ ¬ticksReached l g ∨
      ∃ more, (conclude l started x : Act ν RunError (Game κ W σ × χ) α) (g, c) =
          ⟨.ok x, (g.halted, c'), more⟩ ∧ notesOf more = [] ∧
        (ticksReached l g ∨ l.maxDuration.isSome = true) := by
  obtain ⟨yes, c', happly, hyes, hwhy⟩ := limitReached_apply (ν := ν) l started g c
  refine ⟨c', ?_⟩
  cases yes with
  | false =>
    refine .inl ⟨?_, fun h => absurd (hyes h) (by decide)⟩
    simp [conclude, Act.bind_apply, happly]
  | true =>
    refine .inr ⟨.log ⟨.info, s!"runtime limit reached after {g.ticks} ticks"⟩ :: g.stopNotice ν,
      ?_, ?_, hwhy rfl⟩
    · simp [conclude, Act.bind_apply, Act.map_apply, happly, onGame, Act.zoom_apply, stop_apply,
        Outcome.after, Outcome.mapState, Except.map]
    · rw [notesOf_log, stopNotice]
      split <;> rfl

/-- What a round comes to, for a running game with the timer `m`. The game runs on with no limit
reached and all due ticks made, or it is stopped for a reason. -/
inductive Rounded (l : Limits) (g : Game κ W σ) (m : Metronome) (w : Stopwatch) :
    Outcome ν RunError (Game κ W σ × χ) (Nat × Stopwatch) → Prop
  | failed {x : Halt RunError} {s : Game κ W σ × χ} {said : List (Entry ν)} :
      Rounded l g m w ⟨.error x, s, said⟩
  | onward {d : Duration} {w' : Stopwatch} {ps : List (Pass κ W σ ν)} {g' : Game κ W σ} {c' : χ}
      {said : List (Entry ν)} (hd : w.least.nanos ≤ d.nanos) (hw : w'.least = w.least)
      (hs : Stretch g said (m.due d) ps g') (hc : g'.control = g.control.fed m d)
      (hl : ¬ticksReached l g') : Rounded l g m w ⟨.ok (m.due d, w'), (g', c'), said⟩
  | ended {ran : Nat} {w' : Stopwatch} {ps : List (Pass κ W σ ν)} {g' : Game κ W σ} {c' : χ}
      {said : List (Entry ν)} (hs : Stretch g said ran ps g') (hran : ran ≤ m.cap.toNat)
      (hc : g'.control = g.control.halted)
      (why : ticksReached l g' ∨ l.maxDuration.isSome = true ∨ ∃ u ∈ ps, u.stopAsked = true) :
      Rounded l g m w ⟨.ok (ran, w'), (g', c'), said⟩

theorem round_spec {g : Game κ W σ} {m : Metronome} (hm : g.timer = some m)
    (hg : g.isRunning = true) (l : Limits) (started : Nat) (w : Stopwatch) (c : χ) :
    Rounded l g m w
      ((round l started w : Act ν RunError (Game κ W σ × χ) (Nat × Stopwatch)) (g, c)) := by
  have hleast := w.least_le_length (Clock.read (g.wakes c)).1
  have hw := w.tick_least (Clock.read (g.wakes c)).1
  simp only [round_apply]
  generalize w.tick (Clock.read (g.wakes c)).1 = t at hleast hw
  have hadvance : ∀ ran, ((advance t.1.length : Act ν GameError (Game κ W σ) Nat) g).result =
      .ok ran → _ := fun ran => advance_stretch hm hg
  rcases h : (advance t.1.length : Act ν GameError (Game κ W σ) Nat) g with
    ⟨(e | f) | ran, g', said⟩ <;> rw [h] at hadvance <;> simp only
  · exact .failed
  · exact .failed
  · obtain ⟨ps, hs, hle, hend⟩ := hadvance ran rfl
    obtain ⟨c', ⟨hc, hl⟩ | ⟨more, hc, hmore, hl⟩⟩ :=
      conclude_apply (ν := ν) l started (ran, t.2) g' (Clock.read (g.wakes c)).2 <;>
    simp only [hc, Outcome.after, List.append_nil]
    · rcases hend with ⟨hctl, rfl⟩ | ⟨hctl, hasked⟩
      · exact .onward hleast hw hs hctl hl
      · exact .ended hs hle hctl (.inr (.inr hasked))
    · have hhalted : g'.halted.control = g.control.halted := by
        rcases hend with ⟨hctl, _⟩ | ⟨hctl, _⟩ <;> exact congrArg Control.halted hctl
      have hs' : Stretch g (said ++ more) ran ps g'.halted :=
        ⟨⟨hs.passes.enacts, by rw [notesOf_append, hmore, List.append_nil, hs.passes.noted]⟩,
          hs.children, hs.ticks⟩
      exact .ended hs' hle hhalted (hl.imp id .inl)

theorem rounds_of_not_running {g : Game κ W σ} (h : g.isRunning = false) (l : Limits)
    (started fuel : Nat) (w : Stopwatch) (c : χ) :
    (rounds l started fuel w : Act ν RunError (Game κ W σ × χ) (Option Nat)) (g, c) =
      ⟨.ok (some 0), (g, c), []⟩ := by
  cases fuel <;> simp [rounds, Act.bind_apply, h]

theorem rounds_zero {g : Game κ W σ} (h : g.isRunning = true) (l : Limits) (started : Nat)
    (w : Stopwatch) (c : χ) :
    (rounds l started 0 w : Act ν RunError (Game κ W σ × χ) (Option Nat)) (g, c) =
      ⟨.ok none, (g, c), []⟩ := by
  simp [rounds, Act.bind_apply, h]

theorem rounds_of_error {l : Limits} {started : Nat} {w : Stopwatch} {g : Game κ W σ} {c : χ}
    {x : Halt RunError} {s : Game κ W σ × χ} {said : List (Entry ν)} (h : g.isRunning = true)
    (hr : round l started w (g, c) = ⟨.error x, s, said⟩) (fuel : Nat) :
    rounds l started (fuel + 1) w (g, c) = ⟨.error x, s, said⟩ := by
  simp [rounds, Act.bind_apply, h, hr]

theorem rounds_of_ok {l : Limits} {started : Nat} {w w' : Stopwatch} {g : Game κ W σ} {c : χ}
    {ran : Nat} {s : Game κ W σ × χ} {said : List (Entry ν)} (h : g.isRunning = true)
    (hr : round l started w (g, c) = ⟨.ok (ran, w'), s, said⟩) (fuel : Nat) :
    rounds l started (fuel + 1) w (g, c) =
      ((Option.map (ran + ·) <$> rounds l started fuel w') s).after said := by
  simp [rounds, Act.bind_apply, h, hr]

/-- Rounds that come to an end, with ticks as their only limit. -/
theorem rounds_stretch {limit started : Nat} (fuel : Nat) {g : Game κ W σ} {m : Metronome}
    {w : Stopwatch} {c : χ} {ran : Nat} (hm : g.timer = some m) (hg : g.isRunning = true)
    (h : ((rounds { maxTicks := some limit } started fuel w :
      Act ν RunError (Game κ W σ × χ) (Option Nat)) (g, c)).result = .ok (some ran)) :
    let o := (rounds { maxTicks := some limit } started fuel w :
      Act ν RunError (Game κ W σ × χ) (Option Nat)) (g, c)
    ∃ ps, Stretch g o.said ran ps o.state.1 ∧ o.state.1.phase = .stopped ∧
      (limit ≤ o.state.1.ticks ∨ ∃ u ∈ ps, u.stopAsked = true) ∧
      o.state.1.ticks ≤ max limit (g.ticks + 1) - 1 + m.cap.toNat := by
  induction fuel generalizing g m w c ran with
  | zero =>
    rw [rounds_zero hg] at h
    cases h
  | succ fuel ih =>
    have hround := round_spec (ν := ν) hm hg { maxTicks := some limit } started w c
    generalize hr : (round { maxTicks := some limit } started w :
      Act ν RunError (Game κ W σ × χ) (Nat × Stopwatch)) (g, c) = o at hround
    cases hround with
    | failed =>
      rw [rounds_of_error hg hr] at h
      cases h
    | @onward d w' ps g' c' said _ _ hs hc hl =>
      have hm' : g'.timer = some (m.fed d) := congrArg Control.timer hc
      have hg' : g'.isRunning = true := isRunning_of_phase (congrArg Control.phase hc) hg
      have hlt : g'.ticks < limit := Nat.not_le.1 fun hle => hl ⟨limit, rfl, hle⟩
      have hticks := hs.ticks
      rw [rounds_of_ok hg hr] at h ⊢
      simp only [Outcome.after_result, Act.map_apply] at h
      rcases hrest : (rounds { maxTicks := some limit } started fuel w' :
        Act ν RunError (Game κ W σ × χ) (Option Nat)) (g', c') with ⟨x | _ | more, s, rest⟩ <;>
        rw [hrest] at h <;> cases h
      have hih := ih hm' hg' (by rw [hrest])
      simp only [hrest] at hih
      obtain ⟨qs, hqs, hstopped, hwhy, hle⟩ := hih
      simp only [Act.map_apply, hrest, Outcome.after]
      refine ⟨ps ++ qs, hs.append hqs, hstopped, hwhy.imp_right ?_, ?_⟩
      · rintro ⟨u, hu, ha⟩
        exact ⟨u, List.mem_append_right _ hu, ha⟩
      · rw [Metronome.fed_cap] at hle
        omega
    | @ended _ w' ps g' c' said hs hran hc hwhy =>
      have hphase : g'.phase = .stopped := congrArg Control.phase hc
      have hticks := hs.ticks
      rw [rounds_of_ok hg hr, Act.map_apply, rounds_of_not_running (isRunning_of_halted hc)] at h ⊢
      cases h
      simp only [Outcome.after, List.append_nil, Nat.add_zero]
      refine ⟨ps, hs, hphase, ?_, by omega⟩
      rcases hwhy with ⟨n, ⟨⟩, hle⟩ | ⟨⟨⟩⟩ | hasked
      · exact .inl hle
      · exact .inr hasked

/-- Rounds that have ended are not changed by leave for more. -/
theorem rounds_stable {l : Limits} {started : Nat} (more fuel : Nat) {w : Stopwatch}
    {g : Game κ W σ} {c : χ}
    (h : ((rounds l started fuel w : Act ν RunError (Game κ W σ × χ) (Option Nat))
      (g, c)).result ≠ .ok none) :
    (rounds l started (fuel + more) w : Act ν RunError (Game κ W σ × χ) (Option Nat)) (g, c) =
      rounds l started fuel w (g, c) := by
  induction fuel generalizing w g c with
  | zero =>
    cases hg : g.isRunning with
    | false => rw [rounds_of_not_running hg, rounds_of_not_running hg]
    | true => exact absurd (by rw [rounds_zero hg]) h
  | succ fuel ih =>
    rw [Nat.add_right_comm]
    cases hg : g.isRunning with
    | false => rw [rounds_of_not_running hg, rounds_of_not_running hg]
    | true =>
      rcases hr : (round l started w : Act ν RunError (Game κ W σ × χ) (Nat × Stopwatch)) (g, c)
        with ⟨x | ⟨ran, w'⟩, ⟨g', c'⟩, said⟩
      · rw [rounds_of_error hg hr, rounds_of_error hg hr]
      · rw [rounds_of_ok hg hr, Act.map_apply] at h
        rw [rounds_of_ok hg hr, rounds_of_ok hg hr, Act.map_apply, Act.map_apply, ih]
        intro hnone
        rw [hnone] at h
        exact h rfl

/-- What a round does for the end of a run, for a running game with the timer `m`, where a frame
lasts `least` at least. It fails, or the game runs no more, or there are new ticks, or the timer is
nearer to its next period. -/
inductive Progress (limit : Nat) (least : Duration) (g : Game κ W σ) (m : Metronome) :
    Outcome ν RunError (Game κ W σ × χ) (Nat × Stopwatch) → Prop
  | failed {x : Halt RunError} {s : Game κ W σ × χ} {said : List (Entry ν)} :
      Progress limit least g m ⟨.error x, s, said⟩
  | ended {ran : Nat} {w : Stopwatch} {g' : Game κ W σ} {c : χ} {said : List (Entry ν)}
      (h : g'.isRunning = false) : Progress limit least g m ⟨.ok (ran, w), (g', c), said⟩
  | ticked {ran : Nat} {w : Stopwatch} {g' : Game κ W σ} {m' : Metronome} {c : χ}
      {said : List (Entry ν)} (hm : g'.timer = some m') (hp : m'.period = m.period)
      (hw : w.least = least) (hl : g'.ticks < limit) (h : g.ticks < g'.ticks) :
      Progress limit least g m ⟨.ok (ran, w), (g', c), said⟩
  | nearer {w : Stopwatch} {g' : Game κ W σ} {m' : Metronome} {c : χ} {said : List (Entry ν)}
      (hm : g'.timer = some m') (hp : m'.period = m.period) (hw : w.least = least)
      (ht : g'.ticks = g.ticks) (hpos : 0 < m'.untilNext.nanos)
      (h : m'.untilNext.nanos + least.nanos ≤ m.untilNext.nanos) :
      Progress limit least g m ⟨.ok (0, w), (g', c), said⟩

theorem round_progress {l : Limits} {limit : Nat} (hl : l.maxTicks = some limit) {g : Game κ W σ}
    {m : Metronome} (hm : g.timer = some m) (hg : g.isRunning = true) (started : Nat)
    (w : Stopwatch) (c : χ) :
    Progress limit w.least g m
      ((round l started w : Act ν RunError (Game κ W σ × χ) (Nat × Stopwatch)) (g, c)) := by
  have hround := round_spec (ν := ν) hm hg l started w c
  generalize (round l started w : Act ν RunError (Game κ W σ × χ) (Nat × Stopwatch)) (g, c) = o
    at hround ⊢
  cases hround with
  | failed => exact .failed
  | @onward d w' ps g' c' said hd hw hs hc hreached =>
    have hm' : g'.timer = some (m.fed d) := congrArg Control.timer hc
    have hticks := hs.ticks
    by_cases hdue : m.due d = 0
    · have huntil := Metronome.untilNext_fed hdue
      rw [hdue] at hticks ⊢
      exact .nearer hm' rfl hw hticks huntil.1 (by omega)
    · have hlt : g'.ticks < limit := Nat.not_le.1 fun hle => hreached ⟨limit, hl, hle⟩
      exact .ticked hm' rfl hw hlt (by omega)
  | ended _ _ hc _ => exact .ended (isRunning_of_halted hc)

/-- A number of rounds within which a run up to `limit` ticks ends: for each tick that is missing,
as many as the shortest frames take to fill a period. -/
def roundsLeft (limit : Nat) (least : Duration) (g : Game κ W σ) (m : Metronome) : Nat :=
  (limit - g.ticks - 1) * ((m.period.nanos - 1) / least.nanos + 1) +
    ((m.untilNext.nanos - 1) / least.nanos + 1)

omit [Actor κ W ν] [Surface σ ν] in
theorem roundsLeft_ticked {limit : Nat} (least : Duration) {g g' : Game κ W σ} {m m' : Metronome}
    (hp : m'.period = m.period) (hl : g'.ticks < limit) (h : g.ticks < g'.ticks) :
    roundsLeft limit least g' m' < roundsLeft limit least g m := by
  simp only [roundsLeft, hp]
  generalize hk : (m.period.nanos - 1) / least.nanos + 1 = k
  have huntil : m'.untilNext.nanos ≤ m.period.nanos := by
    rw [Metronome.untilNext_nanos, hp]
    exact Nat.sub_le _ _
  have hle : (m'.untilNext.nanos - 1) / least.nanos + 1 ≤ k := by
    rw [← hk]
    exact Nat.succ_le_succ (Nat.div_le_div_right (Nat.sub_le_sub_right huntil 1))
  have hticks : (limit - g'.ticks - 1 + 1) * k ≤ (limit - g.ticks - 1) * k :=
    Nat.mul_le_mul_right k (by omega)
  rw [Nat.add_one_mul] at hticks
  exact Nat.lt_of_le_of_lt (Nat.le_trans (Nat.add_le_add_left hle _) hticks)
    (Nat.lt_add_of_pos_right (Nat.succ_pos _))

omit [Actor κ W ν] [Surface σ ν] in
theorem roundsLeft_nearer (limit : Nat) {least : Duration} {g g' : Game κ W σ} {m m' : Metronome}
    (hleast : 0 < least.nanos) (hp : m'.period = m.period) (ht : g'.ticks = g.ticks)
    (hpos : 0 < m'.untilNext.nanos) (h : m'.untilNext.nanos + least.nanos ≤ m.untilNext.nanos) :
    roundsLeft limit least g' m' < roundsLeft limit least g m := by
  have hdiv : (m'.untilNext.nanos - 1) / least.nanos + 1 ≤
      (m.untilNext.nanos - 1) / least.nanos := by
    rw [← Nat.add_div_right _ hleast]
    exact Nat.div_le_div_right (by omega)
  simp only [roundsLeft, hp, ht]
  omega

theorem rounds_ne_none {l : Limits} {started fuel ran : Nat} {w w' : Stopwatch} {g : Game κ W σ}
    {c : χ} {s : Game κ W σ × χ} {said : List (Entry ν)} (hg : g.isRunning = true)
    (hr : round l started w (g, c) = ⟨.ok (ran, w'), s, said⟩)
    (h : ((rounds l started fuel w' : Act ν RunError _ (Option Nat)) s).result ≠ .ok none) :
    ((rounds l started (fuel + 1) w : Act ν RunError _ (Option Nat)) (g, c)).result ≠
      .ok none := by
  rw [rounds_of_ok hg hr, Outcome.after_result, Act.map_apply]
  rcases ho : (rounds l started fuel w' : Act ν RunError _ (Option Nat)) s
    with ⟨x | _ | more, s', rest⟩
  · rintro ⟨⟩
  · exact absurd (by rw [ho]) h
  · rintro ⟨⟩

theorem rounds_ends {l : Limits} {limit : Nat} (hl : l.maxTicks = some limit) (started fuel : Nat)
    {g : Game κ W σ} {m : Metronome} {w : Stopwatch} (hm : g.timer = some m)
    (hw : 0 < w.least.nanos) (hfuel : roundsLeft limit w.least g m ≤ fuel) (c : χ) :
    ((rounds l started fuel w : Act ν RunError (Game κ W σ × χ) (Option Nat)) (g, c)).result ≠
      .ok none := by
  induction fuel generalizing g m w c with
  | zero => exact absurd hfuel (Nat.not_le.2 (Nat.add_pos_right _ (Nat.succ_pos _)))
  | succ fuel ih =>
    cases hg : g.isRunning with
    | false =>
      rw [rounds_of_not_running hg]
      rintro ⟨⟩
    | true =>
      have hround := round_progress (ν := ν) hl hm hg started w c
      generalize hr : (round l started w :
        Act ν RunError (Game κ W σ × χ) (Nat × Stopwatch)) (g, c) = o at hround
      cases hround with
      | failed =>
        rw [rounds_of_error hg hr]
        rintro ⟨⟩
      | ended hg' =>
        refine rounds_ne_none hg hr ?_
        rw [rounds_of_not_running hg']
        rintro ⟨⟩
      | ticked hm' hp hw' hlt hticks =>
        refine rounds_ne_none hg hr (ih hm' (by rw [hw']; exact hw) ?_ _)
        have hless := roundsLeft_ticked w.least hp hlt hticks
        rw [hw']
        omega
      | nearer hm' hp hw' hticks hpos hnear =>
        refine rounds_ne_none hg hr (ih hm' (by rw [hw']; exact hw) ?_ _)
        have hless := roundsLeft_nearer limit hw hp hticks hpos hnear
        rw [hw']
        omega

/-- What a run has before its first round, for which it reads the clock three times. -/
structure Opening (χ : Type) where
  started : Nat
  stopwatch : Stopwatch
  clock : χ

def opening (c : χ) : Opening χ :=
  let first := Clock.read c
  let second := Clock.read first.2
  let third := Clock.read second.2
  ⟨first.1, (Stopwatch.default second.1).reset third.1, third.2⟩

theorem opening_least (c : χ) : (opening c).stopwatch.least = .ofNanos 100000 := rfl

def idleNotice (ν : Type) (g : Game κ W σ) : List (Entry ν) :=
  if g.isRunning then [] else [.log ⟨.warn, s!"runtime started on a game that is {g.phase.name}"⟩]

theorem run_apply (l : Limits) (fuel : Nat) (g : Game κ W σ) (c : χ) :
    (run l fuel : Act ν RunError (Game κ W σ × χ) (Option Summary)) (g, c) =
      (match rounds l (opening c).started fuel (opening c).stopwatch (g, (opening c).clock) with
      | ⟨.error x, s, said⟩ => ⟨.error x, s, said⟩
      | ⟨.ok none, s, said⟩ => ⟨.ok none, s, said⟩
      | ⟨.ok (some ticks), (g', c'), said⟩ =>
        ⟨.ok (some ⟨ticks, .ofNanos ((Clock.read c').1 - (opening c).started)⟩),
          (g', (Clock.read c').2), said⟩ : Outcome ν _ _ _).after (g.idleNotice ν) := by
  unfold run
  rcases hr : (rounds l (opening c).started fuel (opening c).stopwatch :
      Act ν RunError (Game κ W σ × χ) (Option Nat)) (g, (opening c).clock) with
    ⟨x | _ | ticks, ⟨g', c'⟩, said⟩ <;>
  cases hg : g.isRunning <;>
  simp only [opening] at hr <;>
  simp [Act.bind_apply, Act.map_apply, readClock_apply, hg, idleNotice, hr, Outcome.after, opening,
    Except.map]

/-- The accounts of a run up to `limit` ticks that found the game `g` and returned `s`. -/
structure Accounted (config : Config) (limit : Nat) (g : Game κ W σ) (s : Summary)
    (o : Outcome ν RunError (Game κ W σ × χ) (Option Summary)) : Prop where
  stopped : o.state.1.phase = .stopped
  counted : o.state.1.ticks = g.ticks + s.ticks
  /-- The passes of the run take the game to the limit, unless a child asked for a stop in one. -/
  reached : ∃ ps, Consists g o.said ps o.state.1.scene ∧
    (limit ≤ o.state.1.ticks ∨ ∃ u ∈ ps, u.stopAsked = true)
  /-- The last round starts below the limit, or it is the first one. -/
  bounded : o.state.1.ticks ≤ max limit (g.ticks + 1) - 1 + max 1 config.maxCatchUp.toNat

/-- For every running game and every clock. -/
theorem run_accounts {config : Config} {g : Game κ W σ} (hg : Reachable ν config g)
    (hrunning : g.phase = .running) {limit fuel : Nat} {clock : χ} {s : Summary}
    (h : ((run { maxTicks := some limit } fuel :
      Act ν RunError (Game κ W σ × χ) (Option Summary)) (g, clock)).result = .ok (some s)) :
    Accounted config limit g s ((run { maxTicks := some limit } fuel :
      Act ν RunError (Game κ W σ × χ) (Option Summary)) (g, clock)) := by
  have hon : g.isRunning = true := by rw [isRunning, hrunning]; rfl
  have hidle : g.idleNotice ν = [] := by rw [idleNotice, hon, if_pos rfl]
  obtain ⟨m, hm⟩ := Option.isSome_iff_exists.1 (hg.settled.timer.2 hrunning)
  rw [run_apply, hidle, Outcome.after_nil] at h ⊢
  rcases hr : (rounds { maxTicks := some limit } (opening clock).started fuel
      (opening clock).stopwatch : Act ν RunError (Game κ W σ × χ) (Option Nat))
      (g, (opening clock).clock) with ⟨x | _ | ran, ⟨g', c'⟩, said⟩ <;>
    rw [hr] at h <;> cases h
  have hrounds := rounds_stretch (ν := ν) fuel hm hon (by rw [hr])
  simp only [hr, hg.cap_eq m hm] at hrounds
  obtain ⟨ps, hs, hstopped, hwhy, hle⟩ := hrounds
  exact ⟨hstopped, hs.ticks, ⟨ps, hs.passes, hwhy⟩, hle⟩

/-- A clock that shows the given readings in turn, however long one sleeps, and then stands still
at zero. -/
structure Readings where
  left : List Nat

instance : Clock Readings where
  read c := (c.left.headD 0, ⟨c.left.tail⟩)
  sleep _ c := c

/-- The clock leaps by a minute: the run goes past its limit as far as it ever can. -/
theorem run_accounts_leap :
    let g := rehearse [.start, .add ⟨0⟩, .gesture, .gesture, .remove 0]
    let o := (run { maxTicks := some 3 } 4 : Act Event RunError _ _)
      (g, Readings.mk [7, 7, 7, 60000000000])
    o.result = .ok (some ⟨5, .ofNanos 0⟩) ∧ g.ticks = 2 ∧
      Accounted { needsGesture := true } 3 g ⟨5, .ofNanos 0⟩ o := by
  intro g o
  have hg : Reachable Event { needsGesture := true } g := rehearse_reachable (by decide +kernel)
  have h : o.result = .ok (some ⟨5, .ofNanos 0⟩) := Outcome.result_eq_ok (by decide +kernel)
  exact ⟨h, by decide +kernel, run_accounts hg (by decide +kernel) h⟩

/-- A run up to a number of ticks ends, whatever the clock shows and whatever the children do. A
frame never counts less than a tenth of a millisecond, so each round fails, stops the game, ticks or
brings the next period nearer by that much; the rounds are then no more than `roundsLeft`, and leave
for more changes nothing. -/
theorem run_ends {g : Game κ W σ} {m : Metronome} (hm : g.timer = some m) {l : Limits} {limit : Nat}
    (hl : l.maxTicks = some limit) (clock : χ) :
    let least := Duration.ofNanos 100000
    (opening clock).stopwatch.least = least ∧
    (∀ w : Stopwatch, w.least = least →
      (∀ now, least.nanos ≤ (w.tick now).1.length.nanos) ∧
      (g.isRunning = true → ∀ (started : Nat) (c : χ), Progress limit least g m
        ((round l started w : Act ν RunError (Game κ W σ × χ) (Nat × Stopwatch)) (g, c)))) ∧
    ∀ fuel, roundsLeft limit least g m ≤ fuel →
      ((run l fuel : Act ν RunError (Game κ W σ × χ) (Option Summary)) (g, clock)).result ≠
        .ok none ∧
      ∀ more, (run l (fuel + more) : Act ν RunError (Game κ W σ × χ) (Option Summary)) (g, clock) =
        run l fuel (g, clock) := by
  refine ⟨opening_least clock, ?_, ?_⟩
  · intro w hw
    rw [← hw]
    exact ⟨w.least_le_length, fun hg started c => round_progress hl hm hg started w c⟩
  · intro fuel hfuel
    have hleast : 0 < (opening clock).stopwatch.least.nanos := by
      rw [opening_least]
      decide
    have hends := rounds_ends (ν := ν) hl (opening clock).started fuel hm hleast hfuel
      (opening clock).clock
    refine ⟨?_, fun more => ?_⟩
    · rw [run_apply, Outcome.after_result]
      rcases hr : (rounds l (opening clock).started fuel (opening clock).stopwatch :
        Act ν RunError (Game κ W σ × χ) (Option Nat)) (g, (opening clock).clock) with
        ⟨x | _ | ran, ⟨g', c'⟩, said⟩
      · rintro ⟨⟩
      · exact absurd (by rw [hr]) hends
      · rintro ⟨⟩
    · rw [run_apply, run_apply, rounds_stable more fuel hends]

/-- The clock goes back and then stands still. -/
theorem run_ends_stuck :
    let g := rehearse [.start, .add ⟨0⟩, .gesture, .gesture, .remove 0]
    ∃ m, g.timer = some m ∧ roundsLeft 4 (.ofNanos 100000) g m = 334 ∧
      ∀ fuel, 334 ≤ fuel →
        ((run { maxTicks := some 4 } fuel : Act Event RunError _ _)
          (g, Readings.mk [9, 8, 7])).result ≠ .ok none := by
  intro g
  have hleft : g.timer.map (roundsLeft 4 (.ofNanos 100000) g) = some 334 := by decide +kernel
  obtain ⟨m, hm, hrounds⟩ := Option.map_eq_some_iff.1 hleft
  refine ⟨m, hm, hrounds, fun fuel hfuel => ?_⟩
  exact ((run_ends hm rfl (Readings.mk [9, 8, 7])).2.2 fuel (by rw [hrounds]; exact hfuel)).1

end Rounds

end Game

end Stagecraft
