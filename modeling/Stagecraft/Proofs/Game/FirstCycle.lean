import Stagecraft.Proofs.Game.Arming

/-!
The first cycle. A game tells its children on the blackboard whether the first cycle is still to
come. Main statement: as long as nobody else writes there, it is still to come until a start or a
gesture makes a first pass that does not fail, and never again after that (`history_firstCycle`).
-/

set_option autoImplicit false

namespace Stagecraft

/-- One turn of a child: the blackboard as the child finds it and as it leaves it. -/
structure Turn where
  found : Blackboard
  left : Blackboard

def Blackboard.flag (b : Blackboard) : Option Value := b.get? Blackboard.firstCycle

/-- Nobody wrote to the flag in this turn, or what they wrote was there before. -/
def Turn.sparesFlag (t : Turn) : Bool := decide (t.left.flag = t.found.flag)

namespace Actor

variable {κ W ν : Type}

def turnList (ν : Type) [Actor κ W ν] : List κ → Bool → Moment × W → List Turn
  | [], _, _ => []
  | c :: rest, stop, p =>
    let o : Outcome ν Empty (Moment × W) Bool := update c stop p
    ⟨p.1.data, o.state.1.data⟩ ::
      match o.result with
      | .ok asked => turnList ν rest (stop || asked) o.state
      | .error _ => []

variable [Actor κ W ν]

theorem updateAll_spares (children : List κ) {stop : Bool} {p : Moment × W}
    (h : (turnList ν children stop p).all Turn.sparesFlag = true) :
    ((updateAll children stop : Act ν Empty (Moment × W) Bool) p).state.1.data.flag =
        p.1.data.flag ∧
      ∀ t ∈ turnList ν children stop p, t.found.flag = p.1.data.flag := by
  induction children generalizing stop p with
  | nil => exact ⟨rfl, by simp [turnList]⟩
  | cons c rest ih =>
    rw [updateAll, Act.bind_apply]
    simp only [turnList, List.all_cons, Bool.and_eq_true, List.mem_cons] at h ⊢
    have hc : (update c stop p : Outcome ν Empty (Moment × W) Bool).state.1.data.flag =
        p.1.data.flag := decide_eq_true_iff.1 h.1
    cases hr : (update c stop p : Outcome ν Empty (Moment × W) Bool).result with
    | error x =>
      refine ⟨hc, ?_⟩
      rintro t (rfl | ht)
      · rfl
      · cases ht
    | ok asked =>
      rw [hr] at h
      obtain ⟨hlast, hfound⟩ := ih h.2
      refine ⟨hlast.trans hc, ?_⟩
      rintro t (rfl | ht)
      · rfl
      · exact (hfound t ht).trans hc

end Actor

namespace Game

variable {κ W σ ν ε : Type}

def firstCycle? (g : Game κ W σ) : Option Bool := g.data.bool? Blackboard.firstCycle

theorem firstCycle?_of_flag {g : Game κ W σ} {b : Bool} (h : g.data.flag = some (.bool b)) :
    g.firstCycle? = some b := by
  rw [Blackboard.flag] at h
  rw [firstCycle?, Blackboard.bool?, h]
  rfl

theorem create_flag [Surface σ ν] {s : σ} {w : W} {c : Config} {g : Game κ W σ}
    (h : ((create s w c : Act ν GameError Unit (Game κ W σ)) ()).result = .ok g) :
    g.data.flag = some (.bool true) := by
  by_cases hr : 0 < c.tickRate.toNat
  · simp [create, hr, Act.bind_apply] at h
    subst h
    exact Blackboard.get?_set_self _ _ _
  · simp [create, hr] at h

section Passes

variable [Actor κ W ν]

def turnList (ν : Type) [Actor κ W ν] (g : Game κ W σ) : List Turn :=
  Actor.turnList ν g.children false (⟨g.data, g.ticks⟩, g.world)

variable [Surface σ ν]

theorem tick_spares {g : Game κ W σ} (h : (g.turnList ν).all Turn.sparesFlag = true) :
    ((tick : Act ν GameError (Game κ W σ) Unit) g).state.data.flag = g.data.flag := by
  rw [tick_data]
  exact (Actor.updateAll_spares g.children h).1

def foundByTicks (ν : Type) [Actor κ W ν] [Surface σ ν] : Nat → Game κ W σ → List (Game κ W σ)
  | 0, _ => []
  | n + 1, g =>
    if g.isRunning then
      let o := (tick : Act ν GameError (Game κ W σ) Unit) g
      g :: if o.succeeded then foundByTicks ν n o.state else []
    else []

theorem ticksWhileRunning_spares (n : Nat) {g : Game κ W σ}
    (h : ∀ p ∈ foundByTicks ν n g, (p.turnList ν).all Turn.sparesFlag = true) :
    ((ticksWhileRunning n : Act ν GameError (Game κ W σ) Nat) g).state.data.flag = g.data.flag ∧
      ∀ p ∈ foundByTicks ν n g, p.data.flag = g.data.flag := by
  induction n generalizing g with
  | zero => exact ⟨rfl, by simp [foundByTicks]⟩
  | succ n ih =>
    cases hr : g.isRunning with
    | false =>
      rw [ticksWhileRunning_of_not_running hr]
      simp [foundByTicks, hr]
    | true =>
      simp only [foundByTicks, hr, if_true, List.mem_cons] at h ⊢
      have ht := tick_spares (h g (.inl rfl))
      rw [ticksWhileRunning_succ hr, Act.bind_apply]
      rcases ho : (tick : Act ν GameError (Game κ W σ) Unit) g with ⟨x | _, g', l⟩ <;>
        rw [ho] at ht h <;> simp only [Outcome.succeeded] at h ⊢
      · refine ⟨ht, ?_⟩
        rintro p (rfl | hp)
        · rfl
        · cases hp
      · obtain ⟨hlast, hfound⟩ := ih fun p hp => h p (.inr hp)
        refine ⟨hlast.trans ht, ?_⟩
        rintro p (rfl | hp)
        · rfl
        · exact (hfound p hp).trans ht

theorem ticksWhileRunning_numbered (n : Nat) {g : Game κ W σ}
    (hf : ((ticksWhileRunning n : Act ν GameError (Game κ W σ) Nat) g).faulted = false) :
    ∃ k, ((ticksWhileRunning n : Act ν GameError (Game κ W σ) Nat) g).state.ticks = g.ticks + k ∧
      (foundByTicks ν n g).map ticks = List.range' g.ticks k := by
  induction n generalizing g with
  | zero => exact ⟨0, rfl, rfl⟩
  | succ n ih =>
    cases hr : g.isRunning with
    | false =>
      rw [ticksWhileRunning_of_not_running hr]
      exact ⟨0, rfl, by simp [foundByTicks, hr]⟩
    | true =>
      rw [ticksWhileRunning_succ hr] at hf ⊢
      obtain ⟨hft, hnext⟩ := Act.faulted_of_bind hf
      have ht := tick_ticks hft
      simp only [foundByTicks, hr, if_true, Act.bind_apply]
      rcases ho : (tick : Act ν GameError (Game κ W σ) Unit) g with ⟨x | _, g', l⟩ <;>
        rw [ho] at ht hnext <;> simp only [Outcome.succeeded]
      · exact ⟨1, ht, rfl⟩
      · have hf' := hnext () rfl
        rw [Act.map_faulted] at hf'
        obtain ⟨k, hk, hmap⟩ := ih hf'
        change g'.ticks = _ at ht
        rw [ht] at hk hmap
        refine ⟨k + 1, hk.trans (by omega), ?_⟩
        simp only [if_true, List.map_cons, hmap, List.range'_succ]

end Passes

namespace Command

variable [Actor κ W ν] [Surface σ ν]

/-- The games that the update passes of a command find, one for each pass. -/
def updates (g : Game κ W σ) : Command κ W σ ν → List (Game κ W σ)
  | .update | .tick => [g]
  | .advance d =>
    match g.timer with
    | none => []
    | some m =>
      if m.hasRoom d then foundByTicks ν (m.due d) { g with timer := some (m.fed d) } else []
  | k => if k.arms g then [{ g with arming := true }] else []

def sparesFlag (g : Game κ W σ) : Command κ W σ ν → Bool
  | .changeData f => Turn.sparesFlag ⟨g.data, f g.data⟩
  | _ => true

end Command

namespace Call

variable [Actor κ W ν] [Surface σ ν]

/-- Neither the host nor a child writes to the flag in this call. -/
def sparesFlag (k : Call κ W σ ν) : Bool :=
  k.command.sparesFlag k.before &&
    (k.command.updates k.before).all fun p => (p.turnList ν).all Turn.sparesFlag

/-- A start or a gesture that makes the first pass, and no child fails to be drawn in it. -/
def opens (k : Call κ W σ ν) : Bool :=
  k.command.arms k.before && (k.before.firstPass ν).succeeded

def turnsFlag (k : Call κ W σ ν) : Bool := decide (k.after.firstCycle? ≠ k.before.firstCycle?)

end Call

variable [Actor κ W ν] [Surface σ ν]

omit [Actor κ W ν] [Surface σ ν] in
theorem startTimer_scene (g : Game κ W σ) :
    ((startTimer : Act ν GameError (Game κ W σ) Unit) g).state.scene = g.scene := by
  rw [startTimer_apply]
  split <;> rfl

/-- However a start ends, its first pass ends the first cycle exactly if it does not fail. -/
theorem launch_scene (g : Game κ W σ) :
    ((launch : Act ν GameError (Game κ W σ) Unit) g).state.scene =
      if (g.firstPass ν).succeeded then (g.firstPass ν).state.scene.opened
      else (g.firstPass ν).state.scene := by
  have ha : ((launch : Act ν GameError (Game κ W σ) Unit) g).state.scene =
      ((arm : Act ν GameError (Game κ W σ) Unit) g).state.scene := by
    rw [launch, Act.bind_apply]
    cases ((arm : Act ν GameError (Game κ W σ) Unit) g).result <;> rfl
  rw [ha, arm_apply]
  rcases g.firstPass ν with ⟨(e | f) | _, g', l⟩
  · rfl
  · rfl
  · simp only [Outcome.succeeded, if_true]
    split
    · rfl
    · rw [Outcome.after_state, startTimer_scene]
      rfl

theorem launch_of_failed {g : Game κ W σ} (h : (g.firstPass ν).succeeded = false) :
    let o := (launch : Act ν GameError (Game κ W σ) Unit) g
    o.succeeded = false ∧ o.state.phase = (g.firstPass ν).state.phase := by
  simp only [launch, Act.bind_apply, arm_apply]
  rcases ho : g.firstPass ν with ⟨(e | f) | _, g', l⟩ <;> rw [ho] at h
  · exact ⟨rfl, rfl⟩
  · exact ⟨rfl, rfl⟩
  · cases h

theorem launch_succeeded {g : Game κ W σ}
    (hf : ((launch : Act ν GameError (Game κ W σ) Unit) g).faulted = false) :
    ((launch : Act ν GameError (Game κ W σ) Unit) g).succeeded = (g.firstPass ν).succeeded := by
  cases hs : (g.firstPass ν).succeeded with
  | false => exact (launch_of_failed hs).1
  | true =>
    have hfa := (Act.faulted_of_bind hf).1
    rw [arm_apply] at hfa
    rw [launch, Act.bind_apply, arm_apply]
    rcases ho : g.firstPass ν with ⟨(e | f) | _, g', l⟩ <;> rw [ho] at hs hfa
    · cases hs
    · cases hs
    · by_cases hp : g'.phase = .stopped
      · simp [hp, Outcome.succeeded]
      · simp only [hp, if_false, Outcome.after_faulted] at hfa
        obtain ⟨m, _, hok, _⟩ := startTimer_spec hfa
        simp [hp, hok, Outcome.succeeded]

/-- What a call does to the flag when nobody but the game writes to it. -/
structure Call.FlagStep (k : Call κ W σ ν) : Prop where
  found : ∀ p ∈ k.command.updates k.before, p.data.flag = k.before.data.flag
  after : k.after.data.flag = if k.opens then some (.bool false) else k.before.data.flag

theorem gate_flagStep {k : Command κ W σ ν} {g : Game κ W σ} (hk : k = .start ∨ k = .gesture)
    (h : ∀ p ∈ k.updates g, (p.turnList ν).all Turn.sparesFlag = true) :
    (⟨k, g, k.perform g⟩ : Call κ W σ ν).FlagStep := by
  have hup : k.updates g = if k.arms g then [{ g with arming := true }] else [] := by
    rcases hk with rfl | rfl <;> rfl
  cases ha : k.arms g with
  | false =>
    have hd : (k.perform g).state.data = g.data :=
      congrArg Scene.data (perform_of_not_arms hk ha).2.2.1
    refine ⟨by simp [hup, ha], ?_⟩
    simp [Call.opens, Call.after, ha, hd]
  | true =>
    have hpass : (g.firstPass ν).state.data.flag = g.data.flag :=
      tick_spares (h { g with arming := true } (by simp [hup, ha]))
    refine ⟨by simp [hup, ha], ?_⟩
    have hd : (k.perform g).state.data =
        (if (g.firstPass ν).succeeded then (g.firstPass ν).state.scene.opened
          else (g.firstPass ν).state.scene).data := by
      rw [(perform_of_arms ha).1, Act.map_state]
      exact congrArg Scene.data (launch_scene g)
    simp only [Call.opens, Call.after, ha, Bool.true_and, hd]
    cases (g.firstPass ν).succeeded with
    | false => exact hpass
    | true => exact Blackboard.get?_set_self _ _ _

theorem perform_flagStep {k : Command κ W σ ν} {g : Game κ W σ}
    (h : (⟨k, g, k.perform g⟩ : Call κ W σ ν).sparesFlag = true) :
    (⟨k, g, k.perform g⟩ : Call κ W σ ν).FlagStep := by
  simp only [Call.sparesFlag, Bool.and_eq_true] at h
  obtain ⟨hhost, hturns⟩ := h
  rw [List.all_eq_true] at hturns
  cases k with
  | start => exact gate_flagStep (.inl rfl) hturns
  | gesture => exact gate_flagStep (.inr rfl) hturns
  | update =>
    have hg := hturns g List.mem_cons_self
    refine ⟨by simp [Command.updates], ?_⟩
    rw [Call.after, Command.perform, Act.map_state, update_data]
    exact (Actor.updateAll_spares g.children hg).1
  | tick =>
    have hg := hturns g List.mem_cons_self
    exact ⟨by simp [Command.updates], tick_spares hg⟩
  | advance d =>
    simp only [Command.updates] at hturns
    cases hm : g.timer with
    | none =>
      refine ⟨by simp [Command.updates, hm], ?_⟩
      rw [Call.after, Command.perform, Act.map_state, advance_of_no_timer hm]
      rfl
    | some m =>
      rw [hm] at hturns
      cases hr : m.hasRoom d with
      | false =>
        refine ⟨by simp [Command.updates, hm, hr], ?_⟩
        rw [Call.after, Command.perform, Act.map_state, advance_apply hm, hr]
        rfl
      | true =>
        simp only [hr, if_true] at hturns
        obtain ⟨hlast, hfound⟩ := ticksWhileRunning_spares (m.due d) hturns
        refine ⟨by simpa [Command.updates, hm, hr] using hfound, ?_⟩
        rw [Call.after, Command.perform, Act.map_state, advance_apply hm, hr]
        exact hlast
  | changeData f =>
    exact ⟨by simp [Command.updates, Command.arms], decide_eq_true_iff.1 hhost⟩
  | stop =>
    refine ⟨by simp [Command.updates, Command.arms], ?_⟩
    rw [Call.after, Command.perform, Act.map_state, stop_apply]
    rfl
  | add | remove | addAudio | render | untilNext | changeSurface | changeWorld =>
    exact ⟨by simp [Command.updates, Command.arms], rfl⟩

theorem perform_numbered {k : Command κ W σ ν} {g : Game κ W σ}
    (hf : (k.perform g).faulted = false) :
    ∃ n, (k.perform g).state.ticks = g.ticks + n ∧
      (k.updates g).map ticks = List.range' g.ticks n := by
  have hgate (hk : k = .start ∨ k = .gesture) : ∃ n, (k.perform g).state.ticks = g.ticks + n ∧
      (if k.arms g then [{ g with arming := true }] else []).map ticks =
        List.range' g.ticks n := by
    cases ha : k.arms g with
    | false => exact ⟨0, congrArg Scene.ticks (perform_of_not_arms hk ha).2.2.1, rfl⟩
    | true =>
      rw [(perform_of_arms ha).1] at hf ⊢
      rw [Act.map_faulted] at hf
      have hp : (g.firstPass ν).state.ticks = g.ticks + 1 := by
        refine tick_ticks (Bool.eq_false_iff.2 fun h => ?_)
        rw [(launch_faulted_iff g).2 (.inl h)] at hf
        cases hf
      refine ⟨1, ?_, rfl⟩
      rw [Act.map_state, ← hp]
      refine (congrArg Scene.ticks (launch_scene g)).trans ?_
      split <;> rfl
  cases k with
  | start => exact hgate (.inl rfl)
  | gesture => exact hgate (.inr rfl)
  | update =>
    rw [Command.perform, Act.map_faulted] at hf
    exact ⟨1, update_ticks hf, rfl⟩
  | tick =>
    rw [Command.perform, Act.map_faulted] at hf
    exact ⟨1, tick_ticks hf, rfl⟩
  | advance d =>
    rw [Command.perform, Act.map_faulted] at hf
    rw [Command.perform, Act.map_state]
    cases hm : g.timer with
    | none =>
      rw [advance_of_no_timer hm]
      exact ⟨0, rfl, by simp [Command.updates, hm]⟩
    | some m =>
      rw [advance_apply hm] at hf ⊢
      cases hr : m.hasRoom d with
      | false =>
        rw [hr] at hf
        cases hf
      | true =>
        rw [hr] at hf
        simpa [Command.updates, hm, hr] using ticksWhileRunning_numbered (m.due d) hf
  | stop =>
    rw [Command.perform, Act.map_state, stop_apply]
    exact ⟨0, rfl, rfl⟩
  | add | remove | addAudio | render | untilNext | changeData | changeSurface | changeWorld =>
    exact ⟨0, rfl, rfl⟩

namespace Call

theorem opens_iff {k : Call κ W σ ν} (hk : k.outcome = k.command.perform k.before)
    (hf : k.outcome.faulted = false) :
    k.opens = true ↔ k.command.arms k.before = true ∧ k.succeeds = true := by
  rw [opens, Bool.and_eq_true]
  refine and_congr_right fun ha => ?_
  rw [hk, (perform_of_arms ha).1, Act.map_faulted] at hf
  rw [succeeds, hk, (perform_of_arms ha).1, Act.map_succeeded, launch_succeeded hf]

theorem rank_of_opens {k : Call κ W σ ν} (hk : k.outcome = k.command.perform k.before)
    (hf : k.outcome.faulted = false) (ho : k.opens = true) : 2 ≤ k.after.phase.rank := by
  obtain ⟨ha, hs⟩ := (opens_iff hk hf).1 ho
  rw [succeeds, hk] at hs
  rw [hk] at hf
  rw [after, hk]
  obtain ⟨x, hx⟩ := Outcome.result_of_succeeded hs
  obtain ⟨u, r, y, _, _, hres, harmed⟩ := perform_armed ha hf
  cases harmed with
  | failed hr =>
    rw [hr] at hres
    cases hx.symm.trans hres
  | stopped _ _ _ hc =>
    have hp : (k.command.perform k.before).state.phase = .stopped := congrArg Control.phase hc
    rw [hp]
    decide
  | started _ _ _ _ hc =>
    have hp : (k.command.perform k.before).state.phase = .running := congrArg Control.phase hc
    rw [hp]
    decide

/-- A game comes to run only by a first pass that does not fail. -/
theorem opens_of_entersRunning {k : Call κ W σ ν} (hk : k.outcome = k.command.perform k.before)
    (he : k.entersRunning = true) : k.opens = true := by
  obtain ⟨hn, hr⟩ := (entersRunning_iff k).1 he
  rw [after, hk] at hr
  have ha : k.command.arms k.before = true :=
    Command.arms_iff.2 ((perform_shift k.command k.before).of_running hn hr)
  rw [opens, ha, Bool.true_and]
  cases hs : (k.before.firstPass ν).succeeded with
  | true => rfl
  | false =>
    rw [(perform_of_arms ha).1, Act.map_state, (launch_of_failed hs).2] at hr
    rcases k.before.firstPass_control (ν := ν) with hc | hc
    · exact absurd ((congrArg Control.phase hc).symm.trans hr) hn
    · cases (congrArg Control.phase hc).symm.trans hr

end Call

theorem history_split (cs : List (Command κ W σ ν)) {g : Game κ W σ}
    {past rest : List (Call κ W σ ν)} {k : Call κ W σ ν} (h : history g cs = past ++ k :: rest) :
    ∃ cs₁ cs₂, cs = cs₁ ++ k.command :: cs₂ ∧ past = history g cs₁ ∧
      k = ⟨k.command, play g cs₁, k.command.perform (play g cs₁)⟩ := by
  induction cs generalizing g past with
  | nil => simp [history] at h
  | cons c cs ih =>
    cases past with
    | nil =>
      simp only [history, List.nil_append, List.cons.injEq] at h
      obtain ⟨rfl, _⟩ := h
      exact ⟨[], cs, rfl, rfl, rfl⟩
    | cons j past =>
      simp only [history, List.cons_append, List.cons.injEq] at h
      obtain ⟨rfl, h⟩ := h
      obtain ⟨cs₁, cs₂, hcs, hpast, hk⟩ := ih h
      refine ⟨c :: cs₁, cs₂, ?_, ?_, hk⟩
      · rw [hcs, List.cons_append]
      · rw [hpast, history]

theorem perform_flag {c : Command κ W σ ν} {g : Game κ W σ} {b : Bool}
    (hg : g.data.flag = some (.bool b))
    (hs : (⟨c, g, c.perform g⟩ : Call κ W σ ν).sparesFlag = true) :
    (c.perform g).state.data.flag =
      some (.bool (b && !(⟨c, g, c.perform g⟩ : Call κ W σ ν).opens)) := by
  have hafter : (c.perform g).state.data.flag = _ := (perform_flagStep hs).after
  rw [hafter]
  cases (⟨c, g, c.perform g⟩ : Call κ W σ ν).opens with
  | true => simp
  | false => simpa using hg

theorem play_flag (cs : List (Command κ W σ ν)) {g : Game κ W σ} {b : Bool}
    (hg : g.data.flag = some (.bool b)) (hs : (history g cs).all Call.sparesFlag = true) :
    (play g cs).data.flag = some (.bool (b && !(history g cs).any Call.opens)) := by
  induction cs generalizing g b with
  | nil => simpa [play, history] using hg
  | cons c cs ih =>
    rw [history, List.all_cons, Bool.and_eq_true] at hs
    rw [play, ih (perform_flag hg hs.1) hs.2, history, List.any_cons, Bool.not_or, Bool.and_assoc]

/-- The flag turns from true to false or not at all. -/
theorem countP_turnsFlag_le (cs : List (Command κ W σ ν)) {g : Game κ W σ} {b : Bool}
    (hg : g.data.flag = some (.bool b)) (hs : (history g cs).all Call.sparesFlag = true) :
    (history g cs).countP Call.turnsFlag ≤ b.toNat := by
  induction cs generalizing g b with
  | nil => simp [history]
  | cons c cs ih =>
    rw [history, List.all_cons, Bool.and_eq_true] at hs
    have hflag := perform_flag hg hs.1
    have hrest := ih hflag hs.2
    have hturn : (⟨c, g, c.perform g⟩ : Call κ W σ ν).turnsFlag =
        (b && (⟨c, g, c.perform g⟩ : Call κ W σ ν).opens) := by
      rw [Call.turnsFlag, Call.after, firstCycle?_of_flag hflag, firstCycle?_of_flag hg]
      cases b <;> cases (⟨c, g, c.perform g⟩ : Call κ W σ ν).opens <;> rfl
    rw [history, List.countP_cons, hturn]
    generalize (⟨c, g, c.perform g⟩ : Call κ W σ ν).opens = o at hrest
    cases b <;> cases o <;> simp at hrest ⊢ <;> omega

theorem rank_of_any_opens (cs : List (Command κ W σ ν)) {g : Game κ W σ}
    (hf : ∀ k ∈ history g cs, k.outcome.faulted = false)
    (ho : (history g cs).any Call.opens = true) : 2 ≤ (play g cs).phase.rank := by
  induction cs generalizing g with
  | nil => simp [history] at ho
  | cons c cs ih =>
    rw [history, List.any_cons, Bool.or_eq_true] at ho
    rcases ho with ho | ho
    · have hr := Call.rank_of_opens rfl (hf _ List.mem_cons_self) ho
      exact control_play (P := fun c => 2 ≤ c.phase.rank)
        (fun hs hc => Nat.le_trans hc hs.rank_le) cs hr
    · exact ih (fun k hk => hf k (List.mem_cons_of_mem _ hk)) ho

theorem any_opens_of_running (cs : List (Command κ W σ ν)) {g : Game κ W σ}
    (hn : g.phase ≠ .running) (hr : (play g cs).phase = .running) :
    (history g cs).any Call.opens = true := by
  induction cs generalizing g with
  | nil => exact absurd hr hn
  | cons c cs ih =>
    rw [history, List.any_cons, Bool.or_eq_true]
    by_cases hp : (c.perform g).state.phase = .running
    · exact .inl (Call.opens_of_entersRunning rfl ((Call.entersRunning_iff _).2 ⟨hn, hp⟩))
    · exact .inr (ih hp hr)

theorem history_updates_numbered (cs : List (Command κ W σ ν)) {g : Game κ W σ}
    (hf : ∀ k ∈ history g cs, k.outcome.faulted = false) :
    ∃ n, (play g cs).ticks = g.ticks + n ∧
      ((history g cs).flatMap fun k => k.command.updates k.before).map ticks =
        List.range' g.ticks n := by
  induction cs generalizing g with
  | nil => exact ⟨0, rfl, rfl⟩
  | cons c cs ih =>
    obtain ⟨m, hm, hup⟩ := perform_numbered (hf _ List.mem_cons_self)
    obtain ⟨n, hn, hrest⟩ := ih fun k hk => hf k (List.mem_cons_of_mem _ hk)
    change (c.perform g).state.ticks = _ at hm
    rw [hm] at hn hrest
    refine ⟨m + n, by rw [play, hn, Nat.add_assoc], ?_⟩
    rw [history, List.flatMap_cons, List.map_append, hup, hrest, List.range'_append_1]

/-- The flag in a run. `updates` lists the update passes of a call; without faults they are the
passes that the game counts. A first pass whose drawing does not fail is the last pass to find the
first cycle still to come. -/
structure Heralded (g : Game κ W σ) (cs : List (Command κ W σ ν)) : Prop where
  found : ∀ past k rest, history g cs = past ++ k :: rest → ∀ p ∈ k.command.updates k.before,
    p.firstCycle? = some (!past.any Call.opens) ∧
      ∀ t ∈ p.turnList ν, t.found.bool? Blackboard.firstCycle = some (!past.any Call.opens)
  passes : (∀ k ∈ history g cs, k.outcome.faulted = false) →
    ((history g cs).flatMap fun k => k.command.updates k.before).map ticks =
      List.range (play g cs).ticks
  opens : ∀ k ∈ history g cs, k.outcome.faulted = false →
    (k.opens = true ↔ k.command.arms k.before = true ∧ k.succeeds = true)
  once : (history g cs).countP Call.turnsFlag ≤ 1
  ahead : (∀ k ∈ history g cs, k.outcome.faulted = false) →
    (play g cs).phase = .created ∨ (play g cs).phase = .waiting →
      (play g cs).firstCycle? = some true
  running : (play g cs).phase = .running → (play g cs).firstCycle? = some false
  stopped : (play g cs).phase = .stopped →
    ((play g cs).firstCycle? = some false ↔ ∃ k ∈ history g cs, k.opens = true)

theorem history_firstCycle {s : σ} {w : W} {c : Config} {g : Game κ W σ}
    (h : ((create s w c : Act ν GameError Unit (Game κ W σ)) ()).result = .ok g)
    {cs : List (Command κ W σ ν)} (hs : (history g cs).all Call.sparesFlag = true) :
    Heralded g cs := by
  obtain ⟨hc, _, ht, _⟩ := create_eq_ok h
  have hp : g.phase = .created := congrArg Control.phase hc
  have hg : g.data.flag = some (.bool true) := create_flag h
  have hlast := firstCycle?_of_flag (play_flag cs hg hs)
  rw [Bool.true_and] at hlast
  refine ⟨?_, ?_, ?_, countP_turnsFlag_le cs hg hs, ?_, ?_, ?_⟩
  · intro past k rest hk p hpass
    have hspare : k.sparesFlag = true :=
      List.all_eq_true.1 hs k (hk ▸ List.mem_append_right _ List.mem_cons_self)
    obtain ⟨cs₁, cs₂, rfl, hpast, hk'⟩ := history_split cs hk
    have hs₁ : (history g cs₁).all Call.sparesFlag = true := by
      rw [hk, List.all_append, Bool.and_eq_true] at hs
      exact hpast ▸ hs.1
    have hbefore := play_flag cs₁ hg hs₁
    rw [Bool.true_and, ← hpast] at hbefore
    rw [hk'] at hspare hpass
    have hflag := ((perform_flagStep hspare).found p hpass).trans hbefore
    refine ⟨firstCycle?_of_flag hflag, fun t ht => ?_⟩
    simp only [Call.sparesFlag, Bool.and_eq_true, List.all_eq_true] at hspare
    have hturn := (Actor.updateAll_spares p.children
      (List.all_eq_true.2 (hspare.2 p hpass))).2 t ht
    have hfound : t.found.get? Blackboard.firstCycle = _ := hturn.trans hflag
    rw [Blackboard.bool?, hfound]
    rfl
  · intro hf
    obtain ⟨n, hn, hup⟩ := history_updates_numbered cs hf
    rw [hup, hn, ht, Nat.zero_add, List.range_eq_range']
  · exact fun k hk => Call.opens_iff (outcome_of_mem_history cs hk)
  · intro hf hphase
    rw [hlast]
    cases ho : (history g cs).any Call.opens with
    | false => rfl
    | true =>
      have hrank := rank_of_any_opens cs hf ho
      rcases hphase with hphase | hphase <;> simp [hphase, Phase.rank] at hrank
  · intro hr
    rw [hlast, any_opens_of_running cs (by simp [hp]) hr]
    rfl
  · intro _
    rw [hlast]
    simp [List.any_eq_true]

/-- A first pass fails, the host writes to another key and makes a pass of its own, a second gesture
opens the game, and a child stops it. -/
theorem history_firstCycle_rehearsal :
    let cs : List (Command MemberId Troupe Screen Event) :=
      [.start, .add ⟨0⟩, .gesture, .changeData (·.set "score" (.int 3)), .update, .gesture,
        .advance (.ofNanos 20000000), .advance (.ofNanos 80000000)]
    (history rehearsal cs).all Call.sparesFlag = true ∧
      (play rehearsal cs).ticks = 7 ∧ (play rehearsal cs).phase = .stopped ∧
      (play rehearsal cs).firstCycle? = some false ∧ Heralded rehearsal cs := by
  intro cs
  have hs : (history rehearsal cs).all Call.sparesFlag = true := by decide +kernel
  have hp : (play rehearsal cs).phase = .stopped := by decide +kernel
  have h := history_firstCycle rehearsal_created hs
  refine ⟨hs, by decide +kernel, hp, (h.stopped hp).2 ?_, h⟩
  exact List.any_eq_true.1 (by decide +kernel)

end Game

end Stagecraft
