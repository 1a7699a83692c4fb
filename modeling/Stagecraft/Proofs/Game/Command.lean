import Stagecraft.Proofs.Game.Control

/-!
Runs of a game: a host may ask anything of it, in any order and any number of times, and may change
its data, its surface and what stands behind its children in between. Main statement: `Shift` says
once what a command can do to the control of a game (`perform_shift`), whatever the children do and
however the command ends. The laws about whole runs are derived from that.
-/

set_option autoImplicit false

namespace Stagecraft.Game

variable {κ W σ ν : Type}

inductive Command (κ W σ ν : Type) where
  | add (c : κ)
  | remove (index : Nat)
  | addAudio (name path : String)
  | update
  | render
  | tick
  | start
  | gesture
  | stop
  | advance (elapsed : Duration)
  | untilNext
  | changeData (f : Blackboard → Blackboard)
  | changeSurface (f : σ → σ × List ν)
  | changeWorld (f : W → W)

inductive Answer (κ : Type) where
  | done
  | child (c : Option κ)
  | ran (ticks : Nat)
  | wait (d : Option Duration)

namespace Command

variable [Actor κ W ν] [Surface σ ν]

def perform : Command κ W σ ν → Act ν GameError (Game κ W σ) (Answer κ)
  | .add c => (fun _ => .done) <$> modify (·.add c)
  | .remove i => .child <$> modifyGet (·.remove i)
  | .addAudio name path => (fun _ => .done) <$> modify (·.addAudio name path)
  | .update => (fun _ => .done) <$> Game.update
  | .render => (fun _ => .done) <$> Game.render
  | .tick => (fun _ => .done) <$> Game.tick
  | .start => (fun _ => .done) <$> Game.start
  | .gesture => (fun _ => .done) <$> Game.gesture
  | .stop => (fun _ => .done) <$> Game.stop
  | .advance d => .ran <$> Game.advance d
  | .untilNext => (fun g => .wait g.untilNext) <$> get
  | .changeData f => (fun _ => .done) <$> modify fun g => { g with data := f g.data }
  | .changeSurface f =>
    (fun _ => .done) <$> Act.zoom surface (fun s g => { g with surface := s }) (Surface.act f)
  | .changeWorld f => (fun _ => .done) <$> modify fun g => { g with world := f g.world }

end Command

/-- One command of a run, with the game that it found and what came of it. -/
structure Call (κ W σ ν : Type) where
  command : Command κ W σ ν
  before : Game κ W σ
  outcome : Outcome ν GameError (Game κ W σ) (Answer κ)

def Call.after (k : Call κ W σ ν) : Game κ W σ := k.outcome.state

variable [Actor κ W ν] [Surface σ ν]

def history (g : Game κ W σ) : List (Command κ W σ ν) → List (Call κ W σ ν)
  | [] => []
  | c :: rest => ⟨c, g, c.perform g⟩ :: history (c.perform g).state rest

theorem outcome_of_mem_history (cs : List (Command κ W σ ν)) {g : Game κ W σ} {k : Call κ W σ ν}
    (hk : k ∈ history g cs) : k.outcome = k.command.perform k.before := by
  induction cs generalizing g with
  | nil => simp [history] at hk
  | cons c rest ih =>
    rcases List.mem_cons.1 hk with rfl | hk
    · rfl
    · exact ih hk

def play (g : Game κ W σ) : List (Command κ W σ ν) → Game κ W σ
  | [] => g
  | c :: rest => play (c.perform g).state rest

/-- The games that a host can meet: a new one, and any that a command leaves without a fault. -/
inductive Reachable (ν : Type) [Actor κ W ν] [Surface σ ν] (c : Config) : Game κ W σ → Prop
  | created {s : σ} {w : W} {g : Game κ W σ}
      (h : ((create s w c : Act ν GameError Unit (Game κ W σ)) ()).result = .ok g) :
      Reachable ν c g
  | step {g : Game κ W σ} (h : Reachable ν c g) (k : Command κ W σ ν)
      (hf : (k.perform g).faulted = false) : Reachable ν c (k.perform g).state

theorem Reachable.play {c : Config} (cs : List (Command κ W σ ν)) {g : Game κ W σ}
    (h : Reachable ν c g) (hf : (history g cs).all (!·.outcome.faulted) = true) :
    Reachable ν c (play g cs) := by
  induction cs generalizing g with
  | nil => exact h
  | cons k rest ih =>
    rw [history, List.all_cons, Bool.and_eq_true, Bool.not_eq_true'] at hf
    exact ih (h.step k hf.1) hf.2

/-- What a command does to the control of a game; `ok` says whether it succeeds. Time is fed to
the timer by `advance` alone, and only `start` and `gesture` bring a game further. -/
inductive Shift : Command κ W σ ν → (ok : Bool) → Control → Control → Prop
  | keep {k : Command κ W σ ν} {ok : Bool} {c : Control}
      (h : ∀ d, k = .advance d → c.timer = none) : Shift k ok c c
  | halt {k : Command κ W σ ν} {ok : Bool} {c : Control} : Shift k ok c c.halted
  | feed {d : Duration} {ok : Bool} {c : Control} {m : Metronome} (h : c.timer = some m) :
      Shift (.advance d) ok c (c.fed m d)
  | reveal {c : Control} {o : Overlay} (hp : c.phase = .created) (ho : c.overlay = some o) :
      Shift .start true c (c.waiting o)
  | start {c : Control} {m : Metronome} (hp : c.phase = .created) (ho : c.overlay = none)
      (hm : Metronome.ofRate? c.tickRate = .ok (some m)) : Shift .start true c (c.started m)
  | gesture {c : Control} {m : Metronome} (hp : c.phase = .waiting)
      (hm : Metronome.ofRate? c.tickRate = .ok (some m)) :
      Shift .gesture true c { c.started m with overlay := none }

namespace Shift

omit [Actor κ W ν] [Surface σ ν] in
theorem of_passed {g g' : Game κ W σ} {k : Command κ W σ ν} {ok : Bool} (h : Passed g g')
    (hk : ∀ d, k ≠ .advance d) : Shift k ok g.control g'.control := by
  rcases h.control_eq with h | h <;> rw [h]
  · exact .keep fun d hd => absurd hd (hk d)
  · exact .halt

end Shift

theorem start_shift (g : Game κ W σ) :
    Shift (.start : Command κ W σ ν) (start (ν := ν) g).succeeded g.control
      (start (ν := ν) g).state.control := by
  by_cases hp : g.phase = .created
  · cases ho : g.overlay with
    | some o =>
      rw [start_of_overlay hp ho]
      exact .reveal hp ho
    | none =>
      rw [start_of_no_overlay hp ho]
      rcases arm_control (ν := ν) (show g.phase ≠ .stopped by simp [hp]) with
        ⟨_, hc⟩ | hc | ⟨hok, m, hm, hc⟩
      · rw [hc]
        exact .keep nofun
      · rw [hc]
        exact .halt
      · rw [hok, hc]
        exact .start hp ho hm
  · rw [start_of_not_created hp]
    exact .keep nofun

theorem gesture_shift (g : Game κ W σ) :
    Shift (.gesture : Command κ W σ ν) (gesture (ν := ν) g).succeeded g.control
      (gesture (ν := ν) g).state.control := by
  by_cases hp : g.phase = .waiting
  · have ha := arm_control (ν := ν) (show g.phase ≠ .stopped by simp [hp])
    rw [gesture_of_waiting hp, Act.bind_apply]
    rcases h : (arm : Act ν GameError (Game κ W σ) Unit) g with ⟨x | _, g', l⟩ <;> rw [h] at ha
    · rcases ha with ⟨_, hc⟩ | hc | ⟨hok, _⟩
      · rw [hc]
        exact .keep nofun
      · rw [hc]
        exact .halt
      · cases hok
    · change Shift _ true _ { g'.control with overlay := none }
      rcases ha with ⟨hok, _⟩ | (hc : g'.control = _) | ⟨_, m, hm, (hc : g'.control = _)⟩
      · cases hok
      · rw [hc]
        exact .halt
      · rw [hc]
        exact .gesture hp hm
  · rw [gesture_of_not_waiting hp]
    exact .keep nofun

theorem perform_shift (k : Command κ W σ ν) (g : Game κ W σ) :
    Shift k (k.perform g).succeeded g.control (k.perform g).state.control := by
  cases k with
  | update => exact .of_passed (update_passed g) nofun
  | render => exact .of_passed (render_played g).passed nofun
  | tick => exact .of_passed (tick_passed g) nofun
  | start =>
    simp only [Command.perform, Act.map_succeeded, Act.map_state]
    exact start_shift g
  | gesture =>
    simp only [Command.perform, Act.map_succeeded, Act.map_state]
    exact gesture_shift g
  | stop =>
    simp only [Command.perform, Act.map_state, stop_apply]
    exact .halt
  | advance d =>
    simp only [Command.perform, Act.map_state]
    cases hm : g.timer with
    | none =>
      rw [advance_of_no_timer hm]
      exact .keep fun _ _ => hm
    | some m =>
      rcases advance_control (ν := ν) hm d with hc | hc <;> rw [hc]
      · exact .feed hm
      · exact .halt
  | add | remove | addAudio | untilNext | changeData | changeSurface | changeWorld =>
    exact .keep nofun

section Invariants

-- what every shift keeps, a whole run keeps
variable {P : Control → Prop}
  (hP : ∀ {k : Command κ W σ ν} {ok : Bool} {c c' : Control}, Shift k ok c c' → P c → P c')
include hP

theorem Reachable.control_induction {c : Config} {g : Game κ W σ} (h : Reachable ν c g)
    (h₀ : P (.initial c)) : P g.control := by
  induction h with
  | created h => rwa [(create_eq_ok h).1]
  | step _ k _ ih => exact hP (perform_shift k _) ih

theorem control_of_mem_history (cs : List (Command κ W σ ν)) {g : Game κ W σ}
    (h : P g.control) : ∀ k ∈ history g cs, P k.before.control := by
  induction cs generalizing g with
  | nil => simp [history]
  | cons c rest ih =>
    intro k hk
    rcases List.mem_cons.1 hk with rfl | hk
    · exact h
    · exact ih (hP (perform_shift c g) h) k hk

theorem control_play (cs : List (Command κ W σ ν)) {g : Game κ W σ} (h : P g.control) :
    P (play g cs).control := by
  induction cs generalizing g with
  | nil => exact h
  | cons c rest ih => exact ih (hP (perform_shift c g) h)

end Invariants

/-- Only a command that faults can leave a first pass unfinished. -/
theorem perform_arming {k : Command κ W σ ν} {g : Game κ W σ} (h : g.arming = false)
    (hf : (k.perform g).faulted = false) : (k.perform g).state.arming = false := by
  cases k with
  | update => exact (update_passed g).arming_eq.trans h
  | tick => exact (tick_passed g).arming_eq.trans h
  | start =>
    simp only [Command.perform, Act.map_faulted, Act.map_state] at hf ⊢
    by_cases hp : g.phase = .created
    · cases ho : g.overlay with
      | some o => rw [start_of_overlay hp ho]; exact h
      | none =>
        rw [start_of_no_overlay hp ho] at hf ⊢
        exact arm_arming hf
    · rw [start_of_not_created hp]; exact h
  | gesture =>
    simp only [Command.perform, Act.map_faulted, Act.map_state] at hf ⊢
    by_cases hp : g.phase = .waiting
    · rw [gesture_of_waiting hp, Act.bind_apply] at hf ⊢
      rcases ha : (arm : Act ν GameError (Game κ W σ) Unit) g with ⟨x | _, g', l⟩ <;>
        simp only [ha] at hf ⊢
      · have hx := arm_arming (ν := ν) (g := g) (by rw [ha]; exact hf)
        rwa [ha] at hx
      · have hx := arm_arming (ν := ν) (g := g) (by rw [ha]; rfl)
        rwa [ha] at hx
    · rw [gesture_of_not_waiting hp]; exact h
  | stop =>
    simp only [Command.perform, Act.map_state, stop_apply]
    exact h
  | advance d =>
    simp only [Command.perform, Act.map_state]
    cases hm : g.timer with
    | none => rw [advance_of_no_timer hm]; exact h
    | some m => exact (advance_passed hm d).arming_eq.trans h
  | add | remove | addAudio | render | untilNext | changeData | changeSurface | changeWorld =>
    exact h

end Stagecraft.Game
