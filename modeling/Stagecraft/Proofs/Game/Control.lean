import Stagecraft.Proofs.Game.Pass
import Stagecraft.Proofs.Time.Metronome

/-!
The control of a game: the fields that decide what it does next and that no child can reach. Each
operation is described by what it does to them, whatever the children do and however the operation
ends. Main statements: `arm_control` and `advance_control`.
-/

set_option autoImplicit false

namespace Stagecraft.Game

variable {κ W σ ν ε : Type}

structure Control where
  tickRate : UInt32
  maxCatchUp : UInt32
  timer : Option Metronome
  overlay : Option Overlay
  phase : Phase

namespace Control

def initial (c : Config) : Control :=
  ⟨c.tickRate, c.maxCatchUp, none, if c.needsGesture then some {} else none, .created⟩

def halted (c : Control) : Control := { c with timer := none, overlay := none, phase := .stopped }

def waiting (c : Control) (o : Overlay) : Control :=
  { c with overlay := some o.reveal, phase := .waiting }

def started (c : Control) (m : Metronome) : Control :=
  { c with timer := some (m.withCap c.maxCatchUp), phase := .running }

def fed (c : Control) (m : Metronome) (d : Duration) : Control :=
  { c with timer := some (m.fed d) }

end Control

def control (g : Game κ W σ) : Control :=
  ⟨g.tickRate, g.maxCatchUp, g.timer, g.overlay, g.phase⟩

theorem Played.control_eq {g g' : Game κ W σ} (h : Played g g') : g'.control = g.control := by
  obtain ⟨d, w, s, n, rfl⟩ := h
  rfl

theorem Passed.control_eq {g g' : Game κ W σ} (h : Passed g g') :
    g'.control = g.control ∨ g'.control = g.control.halted := by
  rcases h with h | ⟨_, h⟩
  · exact .inl h.control_eq
  · exact .inr h.control_eq

theorem isRunning_of_halted {g g' : Game κ W σ} (h : g'.control = g.control.halted) :
    g'.isRunning = false := by
  have hp : g'.phase = .stopped := congrArg Control.phase h
  rw [isRunning, hp]
  rfl

theorem isRunning_of_phase {g g' : Game κ W σ} (h : g'.phase = g.phase)
    (hg : g.isRunning = true) : g'.isRunning = true := by
  rw [isRunning, h]
  exact hg

theorem create_eq_ok [Surface σ ν] {s : σ} {w : W} {c : Config} {g : Game κ W σ}
    (h : ((create s w c : Act ν GameError Unit (Game κ W σ)) ()).result = .ok g) :
    g.control = .initial c ∧ g.arming = false ∧ g.ticks = 0 ∧ g.children = [] := by
  by_cases hr : 0 < c.tickRate.toNat
  · simp [create, hr, Act.bind_apply] at h
    subst h
    exact ⟨rfl, rfl, rfl, rfl⟩
  · simp [create, hr] at h

theorem startTimer_apply (g : Game κ W σ) :
    (startTimer : Act ν GameError (Game κ W σ) Unit) g =
      match Metronome.ofRate? g.tickRate with
      | .error f => ⟨.error (.fault f), g, []⟩
      | .ok none => ⟨.error (.error .invalidTickRate), g, []⟩
      | .ok (some m) =>
        ⟨.ok (), { g with timer := some (m.withCap g.maxCatchUp), phase := .running },
          [.log ⟨.debug, s!"game loop running every {m.period.text}"⟩]⟩ := by
  rcases h : Metronome.ofRate? g.tickRate with f | _ | m <;>
    simp [startTimer, Act.bind_apply, h, Outcome.after]

theorem startTimer_control (g : Game κ W σ) :
    let o := (startTimer : Act ν GameError (Game κ W σ) Unit) g
    o.succeeded = false ∧ o.state.control = g.control ∨
      o.succeeded = true ∧ ∃ m, Metronome.ofRate? g.tickRate = .ok (some m) ∧
        o.state.control = g.control.started m := by
  simp only [startTimer_apply]
  rcases h : Metronome.ofRate? g.tickRate with f | _ | m
  · exact .inl ⟨rfl, rfl⟩
  · exact .inl ⟨rfl, rfl⟩
  · exact .inr ⟨rfl, m, rfl, rfl⟩

variable [Actor κ W ν] [Surface σ ν]

def firstPass (ν : Type) [Actor κ W ν] [Surface σ ν] (g : Game κ W σ) :
    Outcome ν GameError (Game κ W σ) Unit :=
  tick { g with arming := true }

theorem firstPass_control (g : Game κ W σ) :
    (g.firstPass ν).state.control = g.control ∨ (g.firstPass ν).state.control = g.control.halted :=
  (tick_passed { g with arming := true }).control_eq

def opened (g : Game κ W σ) : Game κ W σ :=
  { g with arming := false, data := g.data.set Blackboard.firstCycle (.bool false) }

theorem arm_apply (g : Game κ W σ) :
    (arm : Act ν GameError (Game κ W σ) Unit) g =
      match g.firstPass ν with
      | ⟨.error (.fault f), g', l⟩ => ⟨.error (.fault f), g', l⟩
      | ⟨.error (.error e), g', l⟩ => ⟨.error (.error e), { g' with arming := false }, l⟩
      | ⟨.ok _, g', l⟩ =>
        if g'.phase = .stopped then ⟨.ok (), g'.opened, l⟩ else (startTimer g'.opened).after l := by
  rcases h : g.firstPass ν with ⟨(e | f) | _, g', l⟩ <;> unfold firstPass at h
  · simp [arm, Act.bind_apply, Act.attempt, h, Outcome.after]
  · simp [arm, Act.bind_apply, Act.attempt, h, Outcome.after]
  · by_cases hp : g'.phase = .stopped <;>
      simp [arm, Act.bind_apply, Act.attempt, h, hp, opened, Outcome.after]

/-- The first pass fails and changes nothing here, or it stops the game, or the timer starts. -/
theorem arm_control {g : Game κ W σ} (hp : g.phase ≠ .stopped) :
    let o := (arm : Act ν GameError (Game κ W σ) Unit) g
    o.succeeded = false ∧ o.state.control = g.control ∨ o.state.control = g.control.halted ∨
      o.succeeded = true ∧ ∃ m, Metronome.ofRate? g.tickRate = .ok (some m) ∧
        o.state.control = g.control.started m := by
  have hc := g.firstPass_control (ν := ν)
  simp only [arm_apply]
  rcases h : g.firstPass ν with ⟨(e | f) | _, g', l⟩ <;> rw [h] at hc
  · exact hc.imp (⟨rfl, ·⟩) .inl
  · exact hc.imp (⟨rfl, ·⟩) .inl
  · -- a stop that was granted in the pass wins over the start of the timer
    rcases hc with (hc : g'.control = g.control) | (hc : g'.control = g.control.halted)
    · have hp' : g'.phase ≠ .stopped := by
        rw [show g'.phase = g.phase from congrArg Control.phase hc]; exact hp
      have hs := startTimer_control (ν := ν) g'.opened
      rw [show g'.opened.control = g.control from hc,
        show g'.opened.tickRate = g.tickRate from congrArg Control.tickRate hc] at hs
      simp only [hp', if_false]
      exact hs.imp id .inr
    · have hp' : g'.phase = .stopped := congrArg Control.phase hc
      simp only [hp', if_true]
      exact .inr (.inl hc)

theorem arm_arming {g : Game κ W σ}
    (hf : ((arm : Act ν GameError (Game κ W σ) Unit) g).faulted = false) :
    ((arm : Act ν GameError (Game κ W σ) Unit) g).state.arming = false := by
  rw [arm_apply] at hf ⊢
  rcases h : g.firstPass ν with ⟨(e | f) | _, g', l⟩
  · rfl
  · simp [h, Outcome.faulted] at hf
  · by_cases hp : g'.phase = .stopped
    · simp [hp, opened]
    · simp only [hp, if_false, Outcome.after_state, startTimer_apply]
      split <;> rfl

theorem start_of_overlay {g : Game κ W σ} {o : Overlay} (hp : g.phase = .created)
    (ho : g.overlay = some o) :
    (start : Act ν GameError (Game κ W σ) Unit) g =
      ⟨.ok (), { g with overlay := some o.reveal, phase := .waiting },
        [.log ⟨.debug, "waiting for user gesture before starting"⟩]⟩ := by
  simp [start, Act.bind_apply, hp, ho, Outcome.after]

theorem start_of_no_overlay {g : Game κ W σ} (hp : g.phase = .created) (ho : g.overlay = none) :
    (start : Act ν GameError (Game κ W σ) Unit) g = arm g := by
  simp [start, Act.bind_apply, hp, ho]

theorem start_of_not_created {g : Game κ W σ} (hp : g.phase ≠ .created) :
    (start : Act ν GameError (Game κ W σ) Unit) g =
      ⟨.error (.error (.invalidState "start" g.phase)), g, []⟩ := by
  simp [start, Act.bind_apply, hp]

theorem gesture_of_waiting {g : Game κ W σ} (hp : g.phase = .waiting) :
    (gesture : Act ν GameError (Game κ W σ) Unit) g =
      (arm >>= fun _ => modify fun g => { g with overlay := none }) g := by
  simp [gesture, Act.bind_apply, hp]

theorem gesture_of_not_waiting {g : Game κ W σ} (hp : g.phase ≠ .waiting) :
    (gesture : Act ν GameError (Game κ W σ) Unit) g =
      ⟨.ok (), g, [.log ⟨.warn, s!"ignoring user gesture while {g.phase.name}"⟩]⟩ := by
  simp [gesture, Act.bind_apply, hp]

theorem advance_of_no_timer {g : Game κ W σ} (h : g.timer = none) (d : Duration) :
    (advance d : Act ν GameError (Game κ W σ) Nat) g = ⟨.ok 0, g, []⟩ := by
  simp [advance, Act.bind_apply, h]

theorem advance_apply {g : Game κ W σ} {m : Metronome} (h : g.timer = some m) (d : Duration) :
    (advance d : Act ν GameError (Game κ W σ) Nat) g =
      if m.hasRoom d then
        (ticksWhileRunning (m.due d) { g with timer := some (m.fed d) }).after (m.dropNotice ν d)
      else ⟨.error (.fault .addOverflow), { g with timer := some (m.fed d) }, m.dropNotice ν d⟩ := by
  by_cases hr : m.hasRoom d <;>
    simp [advance, Act.bind_apply, Act.zoom_apply, Metronome.advance_apply, h, hr, Outcome.mapState]

theorem advance_passed {g : Game κ W σ} {m : Metronome} (h : g.timer = some m) (d : Duration) :
    Passed { g with timer := some (m.fed d) }
      ((advance d : Act ν GameError (Game κ W σ) Nat) g).state := by
  rw [advance_apply h]
  split
  · exact ticksWhileRunning_passed _ _
  · exact (Played.refl _).passed

theorem advance_control {g : Game κ W σ} {m : Metronome} (h : g.timer = some m) (d : Duration) :
    let g' := ((advance d : Act ν GameError (Game κ W σ) Nat) g).state
    g'.control = g.control.fed m d ∨ g'.control = g.control.halted :=
  (advance_passed h d).control_eq

end Stagecraft.Game
