import Stagecraft.Proofs.Game.Command
import Stagecraft.Troupe.Basic

/-!
The life of a game. Main statements: in every game that a host can meet, timer, overlay and phase
agree (`lawful_of_reachable`); and in every run the phase never goes back, the game starts to run
at most once and only through its gate, and a stopped game is left as it is (`history_orderly`).
-/

set_option autoImplicit false

namespace Stagecraft

def Phase.rank : Phase → Nat
  | .created => 0
  | .waiting => 1
  | .running => 2
  | .stopped => 3

theorem Phase.rank_le_three (p : Phase) : p.rank ≤ 3 := by cases p <;> decide

namespace Game

variable {κ W σ ν : Type}

namespace Control

structure Settled (needsGesture : Bool) (c : Control) : Prop where
  timer : c.timer.isSome = true ↔ c.phase = .running
  overlay : c.overlay.isSome = true ↔
    needsGesture = true ∧ (c.phase = .created ∨ c.phase = .waiting)
  visible : ∀ o, c.overlay = some o → (o.visible = true ↔ c.phase = .waiting)
  gated : c.phase = .waiting → needsGesture = true

theorem Settled.timer_eq_none {n : Bool} {c : Control} (h : c.Settled n)
    (hp : c.phase ≠ .running) : c.timer = none := by
  cases ht : c.timer with
  | none => rfl
  | some m => exact absurd (h.timer.1 (by simp [ht])) hp

theorem Settled.overlay_eq_none {n : Bool} {c : Control} (h : c.Settled n)
    (hp : c.phase = .running ∨ c.phase = .stopped) : c.overlay = none := by
  cases ho : c.overlay with
  | none => rfl
  | some o =>
    obtain ⟨_, h₁ | h₁⟩ := h.overlay.1 (by simp [ho]) <;> simp [h₁] at hp

end Control

namespace Shift

variable {k : Command κ W σ ν} {ok n : Bool} {c c' : Control}

theorem rank_le (h : Shift k ok c c') : c.phase.rank ≤ c'.phase.rank := by
  cases h with
  | keep => exact Nat.le_refl _
  | halt => exact c.phase.rank_le_three
  | feed => exact Nat.le_refl _
  | reveal hp => simp [hp, Phase.rank]
  | start hp => simp [hp, Phase.rank]
  | gesture hp => simp [hp, Phase.rank, Control.started]

theorem settled (h : Shift k ok c c') (hs : c.Settled n) : c'.Settled n := by
  cases h with
  | keep => exact hs
  | halt =>
    refine ⟨?_, ?_, ?_, ?_⟩ <;> simp [Control.halted]
  | feed hm =>
    have hp : c.phase = .running := hs.timer.1 (by simp [hm])
    exact ⟨by simp [Control.fed, hp], hs.overlay, hs.visible, hs.gated⟩
  | reveal hp ho =>
    have hn : n = true := (hs.overlay.1 (by simp [ho])).1
    have ht := hs.timer_eq_none (by simp [hp])
    refine ⟨?_, ?_, ?_, ?_⟩ <;> simp [Control.waiting, ht, hn, Overlay.reveal]
  | start hp ho =>
    refine ⟨?_, ?_, ?_, ?_⟩ <;> simp [Control.started, ho]
  | gesture hp =>
    refine ⟨?_, ?_, ?_, ?_⟩ <;> simp [Control.started]

/-- A game comes to wait by a start that succeeds. -/
theorem of_waiting (h : Shift k ok c c') (hw : c'.phase = .waiting) :
    c.phase = .waiting ∨ k = .start ∧ ok = true := by
  cases h with
  | keep => exact .inl hw
  | halt => cases hw
  | feed => exact .inl hw
  | reveal => exact .inr ⟨rfl, rfl⟩
  | start => cases hw
  | gesture => cases hw

/-- A game comes to run by a start without an overlay, or by a gesture while it waits. -/
theorem of_running (h : Shift k ok c c') (hp : c.phase ≠ .running) (hr : c'.phase = .running) :
    k = .start ∧ c.phase = .created ∧ c.overlay = none ∨ k = .gesture ∧ c.phase = .waiting := by
  cases h with
  | keep => exact absurd hr hp
  | halt => cases hr
  | feed => exact absurd hr hp
  | reveal => cases hr
  | start hc ho => exact .inl ⟨rfl, hc, ho⟩
  | gesture hw => exact .inr ⟨rfl, hw⟩

end Shift

structure Lawful (c : Config) (g : Game κ W σ) : Prop where
  timer : g.timer.isSome = true ↔ g.phase = .running
  arming : g.arming = false
  overlay : g.overlay.isSome = true ↔
    c.needsGesture = true ∧ (g.phase = .created ∨ g.phase = .waiting)
  visible : ∀ o, g.overlay = some o → (o.visible = true ↔ g.phase = .waiting)

theorem Control.initial_settled (c : Config) : (Control.initial c).Settled c.needsGesture := by
  unfold Control.initial
  cases c.needsGesture <;> refine ⟨?_, ?_, ?_, ?_⟩ <;> simp

variable [Actor κ W ν] [Surface σ ν]

theorem Reachable.settled {c : Config} {g : Game κ W σ} (h : Reachable ν c g) :
    g.control.Settled c.needsGesture :=
  h.control_induction Shift.settled (Control.initial_settled c)

theorem Reachable.arming_eq {c : Config} {g : Game κ W σ} (h : Reachable ν c g) :
    g.arming = false := by
  induction h with
  | created h => exact (create_eq_ok h).2.1
  | step _ k hf ih => exact perform_arming ih hf

theorem lawful_of_reachable {c : Config} {g : Game κ W σ} (h : Reachable ν c g) : Lawful c g :=
  ⟨h.settled.timer, h.arming_eq, h.settled.overlay, h.settled.visible⟩

/-- A game that needs a gesture. Its only player cannot be drawn on passes 0 and 3, and asks for a
stop on pass 6. -/
def rehearsal : Game MemberId Troupe Screen where
  surface := { width := 4, height := 3 }
  tickRate := 60
  maxCatchUp := Metronome.defaultCap
  data := ({} : Blackboard).set Blackboard.firstCycle (.bool true)
  overlay := some {}
  world := { members := #[.player { name := "understudy", program := [
    { cue := .fail .noCostumes, tick := some 0 }, { cue := .heal, tick := some 1 },
    { cue := .fail .noCostumes, tick := some 3 }, { cue := .heal, tick := some 4 },
    { cue := .stop, tick := some 6 }] }] }
  rate_pos := by decide

theorem rehearsal_created :
    ((create rehearsal.surface rehearsal.world { needsGesture := true } :
      Act Event GameError Unit (Game MemberId Troupe Screen)) ()).result = .ok rehearsal := rfl

def rehearse (cs : List (Command MemberId Troupe Screen Event)) : Game MemberId Troupe Screen :=
  play rehearsal cs

theorem rehearse_reachable {cs : List (Command MemberId Troupe Screen Event)}
    (hf : (history rehearsal cs).all (!·.outcome.faulted) = true) :
    Reachable Event { needsGesture := true } (rehearse cs) :=
  (Reachable.created rehearsal_created).play cs hf

/-- The first pass fails after the gesture, and the game waits on. -/
theorem lawful_after_failed_gesture :
    let g := rehearse [.start, .add ⟨0⟩, .gesture]
    Reachable Event { needsGesture := true } g ∧ Lawful { needsGesture := true } g :=
  have h := rehearse_reachable (by decide +kernel)
  ⟨h, lawful_of_reachable h⟩

namespace Call

def entersRunning (k : Call κ W σ ν) : Bool :=
  decide (k.before.phase ≠ .running) && decide (k.after.phase = .running)

omit [Actor κ W ν] [Surface σ ν] in
theorem entersRunning_iff (k : Call κ W σ ν) :
    k.entersRunning = true ↔ k.before.phase ≠ .running ∧ k.after.phase = .running := by
  rw [entersRunning, Bool.and_eq_true, decide_eq_true_eq, decide_eq_true_eq]

def succeeds (k : Call κ W σ ν) : Bool := k.outcome.succeeded

end Call

theorem perform_rank_le (k : Command κ W σ ν) (g : Game κ W σ) :
    g.phase.rank ≤ (k.perform g).state.phase.rank :=
  (perform_shift k g).rank_le

theorem history_rank_le (cs : List (Command κ W σ ν)) (g : Game κ W σ) :
    ∀ k ∈ history g cs, k.before.phase.rank ≤ k.after.phase.rank := by
  intro k hk
  rw [Call.after, outcome_of_mem_history cs hk]
  exact perform_rank_le k.command k.before

/-- Once a game has run, it does not come to run again. -/
theorem history_entersRunning_of_rank (cs : List (Command κ W σ ν)) {g : Game κ W σ}
    (h : 2 ≤ g.phase.rank) : ∀ k ∈ history g cs, k.entersRunning = false := by
  intro k hk
  have hb : 2 ≤ k.before.phase.rank :=
    control_of_mem_history (P := fun c => 2 ≤ c.phase.rank)
      (fun hs hc => Nat.le_trans hc hs.rank_le) cs h k hk
  have hle := history_rank_le cs g k hk
  refine Bool.eq_false_iff.2 fun he => ?_
  obtain ⟨hn, hr⟩ := (Call.entersRunning_iff k).1 he
  rw [hr] at hle
  cases hp : k.before.phase <;> simp_all [Phase.rank]

theorem countP_entersRunning_le_one (cs : List (Command κ W σ ν)) (g : Game κ W σ) :
    (history g cs).countP Call.entersRunning ≤ 1 := by
  induction cs generalizing g with
  | nil => simp [history]
  | cons c rest ih =>
    rw [history, List.countP_cons]
    split
    · rename_i he
      have hr : (c.perform g).state.phase = .running := ((Call.entersRunning_iff _).1 he).2
      have h₀ : (history (c.perform g).state rest).countP Call.entersRunning = 0 := by
        rw [List.countP_eq_zero]
        intro k hk
        simp [history_entersRunning_of_rank rest (by simp [hr, Phase.rank]) k hk]
      omega
    · exact ih _

theorem history_gate {n : Bool} (cs : List (Command κ W σ ν)) {g : Game κ W σ}
    (earlier : List (Call κ W σ ν)) (hs : g.control.Settled n)
    (hw : g.phase = .waiting → ∃ j ∈ earlier, j.command = .start ∧ j.succeeds = true)
    {past rest : List (Call κ W σ ν)} {k : Call κ W σ ν}
    (hk : history g cs = past ++ k :: rest) (he : k.entersRunning = true) :
    if n then k.command = .gesture ∧ ∃ j ∈ earlier ++ past, j.command = .start ∧ j.succeeds = true
    else k.command = .start := by
  -- `earlier` takes in each call in turn, so that the start which made the game wait is in it
  induction cs generalizing g earlier past with
  | nil => simp [history] at hk
  | cons c cs ih =>
    have hsh := perform_shift c g
    cases past with
    | nil =>
      simp only [history, List.nil_append, List.cons.injEq] at hk
      obtain ⟨rfl, _⟩ := hk
      obtain ⟨hn, hr⟩ := (Call.entersRunning_iff _).1 he
      rcases hsh.of_running hn hr with ⟨hc, hp, ho⟩ | ⟨hc, hp⟩
      · have hn : n = false := by
          cases n with
          | false => rfl
          | true =>
            have := hs.overlay.2 ⟨rfl, .inl hp⟩
            simp [ho] at this
        simpa [hn] using hc
      · have hn : n = true := hs.gated hp
        simpa [hn] using ⟨hc, hw hp⟩
    | cons j past =>
      simp only [history, List.cons_append, List.cons.injEq] at hk
      obtain ⟨rfl, hk⟩ := hk
      have hw' : (c.perform g).state.phase = .waiting →
          ∃ j ∈ earlier ++ [⟨c, g, c.perform g⟩], j.command = .start ∧ j.succeeds = true := by
        intro hp
        rcases hsh.of_waiting hp with h | ⟨h, hok⟩
        · obtain ⟨j, hj, hjs⟩ := hw h
          exact ⟨j, List.mem_append_left _ hj, hjs⟩
        · exact ⟨_, List.mem_append_right _ (List.mem_singleton.2 rfl), h, hok⟩
      have := ih (earlier ++ [⟨c, g, c.perform g⟩]) (hsh.settled hs) hw' hk
      simpa using this

theorem perform_of_stopped {n : Bool} {g : Game κ W σ} (hs : g.control.Settled n)
    (hp : g.phase = .stopped) {d : Duration} {k : Command κ W σ ν}
    (hk : k ∈ [.start, .gesture, .stop, .advance d, .untilNext]) : (k.perform g).state = g := by
  have ht : g.timer = none := hs.timer_eq_none (by simp [show g.control.phase = .stopped from hp])
  have ho : g.overlay = none := hs.overlay_eq_none (.inr hp)
  simp only [List.mem_cons, List.not_mem_nil, or_false] at hk
  rcases hk with rfl | rfl | rfl | rfl | rfl
  · simp [Command.perform, start_of_not_created (ν := ν) (g := g) (by simp [hp])]
  · simp [Command.perform, gesture_of_not_waiting (ν := ν) (g := g) (by simp [hp])]
  · simp only [Command.perform, Act.map_state, stop_apply, halted]
    rw [← ht, ← ho, ← hp]
  · simp [Command.perform, advance_of_no_timer ht]
  · rfl

structure Orderly (c : Config) (calls : List (Call κ W σ ν)) : Prop where
  forward : ∀ k ∈ calls, k.before.phase.rank ≤ k.after.phase.rank
  once : calls.countP Call.entersRunning ≤ 1
  gate : ∀ past k rest, calls = past ++ k :: rest → k.entersRunning = true →
    if c.needsGesture then
      k.command = .gesture ∧ ∃ j ∈ past, j.command = .start ∧ j.succeeds = true
    else k.command = .start
  still : ∀ k ∈ calls, k.before.phase = .stopped →
    ∀ d, k.command ∈ [.start, .gesture, .stop, .advance d, .untilNext] → k.after = k.before

theorem history_orderly {s : σ} {w : W} {c : Config} {g : Game κ W σ}
    (h : ((create s w c : Act ν GameError Unit (Game κ W σ)) ()).result = .ok g)
    (cs : List (Command κ W σ ν)) : Orderly c (history g cs) := by
  have hc := (create_eq_ok h).1
  have hs : g.control.Settled c.needsGesture := hc ▸ Control.initial_settled c
  refine ⟨history_rank_le cs g, countP_entersRunning_le_one cs g, ?_, ?_⟩
  · intro past k rest hk he
    have hp : g.phase = .created := congrArg Control.phase hc
    simpa using history_gate cs [] hs (by simp [hp]) hk he
  · intro k hk hp d hd
    rw [Call.after, outcome_of_mem_history cs hk]
    exact perform_of_stopped (control_of_mem_history Shift.settled cs hs k hk) hp hd

/-- A second gesture brings the game to run, and after the stop nothing moves it. -/
theorem history_orderly_rehearsal :
    let calls := history rehearsal
      ([.start, .add ⟨0⟩, .gesture, .gesture, .stop, .gesture, .start] :
        List (Command _ _ _ Event))
    calls.countP Call.entersRunning = 1 ∧ Orderly { needsGesture := true } calls :=
  ⟨by decide +kernel, history_orderly rehearsal_created _⟩

end Game

end Stagecraft
