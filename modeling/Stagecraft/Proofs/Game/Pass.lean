import Stagecraft.Game.Basic
import Stagecraft.Proofs.Act

/-!
Passes: one turn of every child, and what it can do to a game. Main statements: whatever the
children do, a pass reaches only the data, what stands behind the children, the surface and the
count of passes, unless it grants a request to stop (`tick_passed`); and no pass looks at how far
the timer has come (`ticksWhileRunning_retime`).
-/

set_option autoImplicit false

namespace Stagecraft.Game

variable {κ W σ ν ε : Type}

def halted (g : Game κ W σ) : Game κ W σ :=
  { g with timer := none, overlay := none, phase := .stopped }

def stopNotice (ν : Type) (g : Game κ W σ) : List (Entry ν) :=
  if g.timer.isSome then [.log ⟨.debug, s!"game loop stopped after {g.ticks} ticks"⟩] else []

theorem stop_apply (g : Game κ W σ) :
    (stop : Act ν ε (Game κ W σ) Unit) g = ⟨.ok (), g.halted, g.stopNotice ν⟩ := by
  cases h : g.timer.isSome <;>
    simp [stop, Act.bind_apply, h, halted, stopNotice, Outcome.after]

def grantsStop (g : Game κ W σ) : Bool := g.isRunning || g.arming

theorem obeyStop_apply (g : Game κ W σ) :
    (obeyStop : Act ν ε (Game κ W σ) Unit) g =
      if g.grantsStop then
        ⟨.ok (), g.halted,
          .log ⟨.debug, s!"stop requested during tick {g.ticks - 1}"⟩ :: g.stopNotice ν⟩
      else ⟨.ok (), g, [.log ⟨.debug, s!"ignoring stop request while {g.phase.name}"⟩]⟩ := by
  cases hr : g.isRunning <;> cases ha : g.arming <;>
    simp [obeyStop, Act.bind_apply, grantsStop, hr, ha, stop_apply, Outcome.after]

def hasRoom (g : Game κ W σ) : Bool := decide (g.ticks + 1 < 2 ^ 64)

theorem countTick_apply (g : Game κ W σ) :
    (countTick : Act ν ε (Game κ W σ) Unit) g =
      if g.hasRoom then ⟨.ok (), { g with ticks := g.ticks + 1 }, []⟩
      else ⟨.error (.fault .addOverflow), g, []⟩ := by
  simp only [countTick, Act.bind_apply, Act.get_apply, hasRoom, decide_eq_true_eq]
  split <;> rfl

def counted (g : Game κ W σ) (p : Moment × W) : Game κ W σ :=
  { g with data := p.1.data, world := p.2, ticks := g.ticks + 1 }

section Update

variable [Actor κ W ν]

def turns (ν : Type) [Actor κ W ν] (g : Game κ W σ) :
    Outcome ν Empty (Moment × W) Bool :=
  Actor.updateAll g.children false (⟨g.data, g.ticks⟩, g.world)

theorem update_apply (g : Game κ W σ) :
    (update : Act ν ε (Game κ W σ) Unit) g =
      match g.turns ν with
      | ⟨.error x, p, l⟩ => ⟨.error (x.map Empty.elim), { g with data := p.1.data, world := p.2 }, l⟩
      | ⟨.ok asked, p, l⟩ =>
        if g.hasRoom then
          if asked then (obeyStop (g.counted p)).after l else ⟨.ok (), g.counted p, l⟩
        else ⟨.error (.fault .addOverflow), { g with data := p.1.data, world := p.2 }, l⟩ := by
  rcases h : g.turns ν with ⟨x | asked, p, l⟩ <;> unfold turns at h
  · rcases x with e | f
    · exact e.elim
    · simp [update, Act.bind_apply, Act.zoom_apply, Act.mapError_apply, h, Halt.map,
        Outcome.mapState]
  · have hr : ({ g with data := p.1.data, world := p.2 }).hasRoom = g.hasRoom := rfl
    cases ht : g.hasRoom with
    | false =>
      simp [update, Act.bind_apply, Act.zoom_apply, Act.mapError_apply, h,
        Outcome.mapState, Outcome.after, countTick_apply, hr, ht]
    | true =>
      cases asked <;>
        simp [update, Act.bind_apply, Act.zoom_apply, Act.mapError_apply, h,
          Outcome.mapState, Outcome.after, countTick_apply, hr, ht, counted]

end Update

/-- Nothing but the data, what stands behind the children, the surface and the count of passes
differs between two games. -/
def Played (g g' : Game κ W σ) : Prop :=
  ∃ d w s n, g' = { g with data := d, world := w, surface := s, ticks := n }

namespace Played

protected theorem refl (g : Game κ W σ) : Played g g := ⟨_, _, _, _, rfl⟩

protected theorem trans {a b c : Game κ W σ} (hab : Played a b) (hbc : Played b c) :
    Played a c := by
  obtain ⟨_, _, _, _, rfl⟩ := hab
  obtain ⟨d, w, s, n, rfl⟩ := hbc
  exact ⟨d, w, s, n, rfl⟩

theorem halted {g g' : Game κ W σ} (h : Played g g') : Played g.halted g'.halted := by
  obtain ⟨d, w, s, n, rfl⟩ := h
  exact ⟨d, w, s, n, rfl⟩

theorem isRunning_eq {g g' : Game κ W σ} (h : Played g g') : g'.isRunning = g.isRunning := by
  obtain ⟨d, w, s, n, rfl⟩ := h
  rfl

theorem grantsStop_eq {g g' : Game κ W σ} (h : Played g g') : g'.grantsStop = g.grantsStop := by
  obtain ⟨d, w, s, n, rfl⟩ := h
  rfl

end Played

/-- What passes can do to a game: they leave everything that is out of the children's reach, or
they stop the game where a request to stop is granted. -/
def Passed (g g' : Game κ W σ) : Prop :=
  Played g g' ∨ g.grantsStop = true ∧ Played g.halted g'

theorem Played.passed {g g' : Game κ W σ} (h : Played g g') : Passed g g' := .inl h

namespace Passed

theorem of_played {a b c : Game κ W σ} (hab : Played a b) (hbc : Passed b c) : Passed a c := by
  rcases hbc with h | ⟨hs, h⟩
  · exact .inl (hab.trans h)
  · exact .inr ⟨by rw [← hab.grantsStop_eq]; exact hs, hab.halted.trans h⟩

theorem then_played {a b c : Game κ W σ} (hab : Passed a b) (hbc : Played b c) : Passed a c := by
  rcases hab with h | ⟨hs, h⟩
  · exact .inl (h.trans hbc)
  · exact .inr ⟨hs, h.trans hbc⟩

theorem arming_eq {g g' : Game κ W σ} (h : Passed g g') : g'.arming = g.arming := by
  rcases h with ⟨d, w, s, n, rfl⟩ | ⟨_, d, w, s, n, rfl⟩ <;> rfl

end Passed

theorem obeyStop_passed (g : Game κ W σ) :
    Passed g ((obeyStop : Act ν ε (Game κ W σ) Unit) g).state := by
  rw [obeyStop_apply]
  split
  · exact .inr ⟨by assumption, .refl _⟩
  · exact .inl (.refl _)

variable [Actor κ W ν]

theorem update_passed (g : Game κ W σ) :
    Passed g ((update : Act ν ε (Game κ W σ) Unit) g).state := by
  rw [update_apply]
  rcases g.turns ν with ⟨x | asked, p, l⟩
  · exact .inl ⟨_, _, _, _, rfl⟩
  · have hc : Played g (g.counted p) := ⟨_, _, _, _, rfl⟩
    cases ht : g.hasRoom with
    | false =>
      have hp : Played g { g with data := p.1.data, world := p.2 } := ⟨_, _, _, _, rfl⟩
      simpa [ht] using hp.passed
    | true =>
      cases asked with
      | false => simpa [ht] using hc.passed
      | true => simpa [ht] using Passed.of_played hc (obeyStop_passed (g.counted p))

theorem update_data (g : Game κ W σ) :
    ((update : Act ν ε (Game κ W σ) Unit) g).state.data = (g.turns ν).state.1.data := by
  rw [update_apply]
  rcases g.turns ν with ⟨x | asked, p, l⟩
  · rfl
  · cases hr : g.hasRoom with
    | false => simp
    | true =>
      cases asked with
      | false => rfl
      | true =>
        simp only [if_true, Outcome.after_state, obeyStop_apply]
        split <;> rfl

theorem update_ticks {g : Game κ W σ}
    (hf : ((update : Act ν ε (Game κ W σ) Unit) g).faulted = false) :
    ((update : Act ν ε (Game κ W σ) Unit) g).state.ticks = g.ticks + 1 := by
  rw [update_apply] at hf ⊢
  rcases h : g.turns ν with ⟨(e | f) | asked, p, l⟩ <;> rw [h] at hf
  · exact e.elim
  · cases hf
  · cases hr : g.hasRoom with
    | false => simp [hr, Outcome.faulted] at hf
    | true =>
      cases asked with
      | false => rfl
      | true =>
        simp only [if_true, Outcome.after_state, obeyStop_apply]
        split <;> rfl

variable [Surface σ ν]

theorem render_played (g : Game κ W σ) :
    Played g ((render : Act ν GameError (Game κ W σ) Unit) g).state :=
  ⟨_, _, _, _, rfl⟩

theorem tick_passed (g : Game κ W σ) :
    Passed g ((tick : Act ν GameError (Game κ W σ) Unit) g).state := by
  have hu := update_passed (ν := ν) (ε := GameError) g
  simp only [tick, Act.bind_apply]
  split
  · exact hu.then_played (render_played _)
  · exact hu

theorem tick_data (g : Game κ W σ) :
    ((tick : Act ν GameError (Game κ W σ) Unit) g).state.data = (g.turns ν).state.1.data := by
  have hu := update_data (ν := ν) (ε := GameError) g
  rw [tick, Act.bind_apply]
  cases ((update : Act ν GameError (Game κ W σ) Unit) g).result <;> exact hu

theorem tick_ticks {g : Game κ W σ}
    (hf : ((tick : Act ν GameError (Game κ W σ) Unit) g).faulted = false) :
    ((tick : Act ν GameError (Game κ W σ) Unit) g).state.ticks = g.ticks + 1 := by
  have hu := update_ticks (Act.faulted_of_bind hf).1
  rw [tick, Act.bind_apply]
  cases ((update : Act ν GameError (Game κ W σ) Unit) g).result <;> exact hu

theorem ticksWhileRunning_of_not_running {g : Game κ W σ} (h : g.isRunning = false) (n : Nat) :
    (ticksWhileRunning n : Act ν GameError (Game κ W σ) Nat) g = ⟨.ok 0, g, []⟩ := by
  cases n with
  | zero => rfl
  | succ n => simp [ticksWhileRunning, Act.bind_apply, h]

theorem ticksWhileRunning_succ {g : Game κ W σ} (h : g.isRunning = true) (n : Nat) :
    (ticksWhileRunning (n + 1) : Act ν GameError (Game κ W σ) Nat) g =
      (tick >>= fun _ => (· + 1) <$> ticksWhileRunning n) g := by
  simp [ticksWhileRunning, Act.bind_apply, h]

theorem ticksWhileRunning_passed (n : Nat) (g : Game κ W σ) :
    Passed g ((ticksWhileRunning n : Act ν GameError (Game κ W σ) Nat) g).state := by
  induction n generalizing g with
  | zero => exact .inl (.refl g)
  | succ n ih =>
    cases hr : g.isRunning with
    | false =>
      rw [ticksWhileRunning_of_not_running hr]
      exact .inl (.refl g)
    | true =>
      have ht := tick_passed (ν := ν) g
      rw [ticksWhileRunning_succ hr, Act.bind_apply]
      split
      · rcases ht with h | ⟨hs, h⟩
        · exact Passed.of_played h (ih _)
        · -- the pass stopped the game, so no other one follows
          have hn : (tick (ν := ν) g).state.isRunning = false := by
            rw [h.isRunning_eq]; rfl
          refine .inr ⟨hs, ?_⟩
          simpa [ticksWhileRunning_of_not_running hn] using h
      · exact ht

theorem ticksWhileRunning_add (m n : Nat) (g : Game κ W σ) :
    (ticksWhileRunning (m + n) : Act ν GameError (Game κ W σ) Nat) g =
      (ticksWhileRunning m >>= fun a => (a + ·) <$> ticksWhileRunning n) g := by
  induction m generalizing g with
  | zero =>
    simp [ticksWhileRunning]
  | succ m ih =>
    cases hr : g.isRunning with
    | false =>
      simp [Act.bind_apply, Act.map_apply, ticksWhileRunning_of_not_running hr, Except.map,
        Outcome.after]
    | true =>
      have hm := ticksWhileRunning_succ (ν := ν) hr m
      have hmn := ticksWhileRunning_succ (ν := ν) hr (m + n)
      rw [Nat.succ_add, hmn, Act.bind_apply, Act.bind_apply, hm, Act.bind_apply]
      rcases (tick (ν := ν) g) with ⟨x | _, g₁, l⟩
      · rfl
      · simp only [Act.map_apply, ih g₁, Act.bind_apply]
        rcases (ticksWhileRunning (ν := ν) m g₁) with ⟨x | a, g₂, l₂⟩
        · rfl
        · rcases h : (ticksWhileRunning (ν := ν) n g₂) with ⟨x | b, g₃, l₃⟩ <;>
            simp [Outcome.after, Except.map, h, Nat.add_right_comm]

/-- The same game with another timer in the place of its own, if it has one. -/
def retime (f : Metronome → Metronome) (g : Game κ W σ) : Game κ W σ :=
  { g with timer := g.timer.map f }

omit [Actor κ W ν] [Surface σ ν] in
theorem obeyStop_retime (f : Metronome → Metronome) (g : Game κ W σ) :
    (obeyStop : Act ν ε (Game κ W σ) Unit) (g.retime f) = (obeyStop g).mapState (retime f) := by
  have hn : (g.retime f).stopNotice ν = g.stopNotice ν := by simp [stopNotice, retime]
  rw [obeyStop_apply, obeyStop_apply, hn]
  have hs : (g.retime f).grantsStop = g.grantsStop := rfl
  rw [hs]
  split <;> rfl

omit [Surface σ ν] in
theorem update_retime (f : Metronome → Metronome) (g : Game κ W σ) :
    (update : Act ν ε (Game κ W σ) Unit) (g.retime f) = (update g).mapState (retime f) := by
  have ht : (g.retime f).turns ν = g.turns ν := rfl
  rw [update_apply, update_apply, ht]
  rcases g.turns ν with ⟨x | asked, p, l⟩
  · rfl
  · have hc : (g.retime f).counted p = (g.counted p).retime f := rfl
    have hr : (g.retime f).hasRoom = g.hasRoom := rfl
    cases ht : g.hasRoom with
    | false =>
      simp [hr, ht]
      rfl
    | true =>
      cases asked <;> simp [hr, ht, hc, obeyStop_retime, Outcome.mapState_after]
      rfl

theorem tick_retime (f : Metronome → Metronome) (g : Game κ W σ) :
    (tick : Act ν GameError (Game κ W σ) Unit) (g.retime f) = (tick g).mapState (retime f) := by
  simp only [tick, Act.bind_apply, update_retime, Outcome.mapState_result]
  split <;> rfl

theorem ticksWhileRunning_retime (f : Metronome → Metronome) (n : Nat) (g : Game κ W σ) :
    (ticksWhileRunning n : Act ν GameError (Game κ W σ) Nat) (g.retime f) =
      (ticksWhileRunning n g).mapState (retime f) := by
  induction n generalizing g with
  | zero => rfl
  | succ n ih =>
    cases hr : g.isRunning with
    | false =>
      have hr' : (g.retime f).isRunning = false := hr
      rw [ticksWhileRunning_of_not_running hr, ticksWhileRunning_of_not_running hr']
      rfl
    | true =>
      have hr' : (g.retime f).isRunning = true := hr
      rw [ticksWhileRunning_succ hr, ticksWhileRunning_succ hr']
      simp only [Act.bind_apply, tick_retime, Outcome.mapState_result, Act.map_apply]
      split <;> simp [Outcome.mapState, ih, Outcome.after]

end Stagecraft.Game
