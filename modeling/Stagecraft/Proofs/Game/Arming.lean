import Stagecraft.Proofs.Game.Enactment
import Stagecraft.Proofs.Game.Schedule

/-!
The first pass of a game, which a start or a gesture makes before the timer runs. Main statements:
a first pass that fails leaves a game that can be started again, unless a child asked for a stop
in it, and one that does not fail opens the game (`perform_of_arms_settles`); and where the
children are steady it takes a rate without a timer to make the game fault there, or a full count
of passes (`perform_faulted_iff`).
-/

set_option autoImplicit false

namespace Stagecraft.Game

variable {κ W σ ν : Type}

def Command.arms (g : Game κ W σ) : Command κ W σ ν → Bool
  | .start => decide (g.phase = .created) && g.overlay.isNone
  | .gesture => decide (g.phase = .waiting)
  | _ => false

theorem Command.arms_iff {k : Command κ W σ ν} {g : Game κ W σ} :
    k.arms g = true ↔ k = .start ∧ g.phase = .created ∧ g.overlay = none ∨
      k = .gesture ∧ g.phase = .waiting := by
  cases k <;> simp [arms]

theorem Command.arms_congr {k : Command κ W σ ν} {g g' : Game κ W σ}
    (h : g'.control = g.control) : k.arms g' = k.arms g := by
  have hp : g'.phase = g.phase := congrArg Control.phase h
  have ho : g'.overlay = g.overlay := congrArg Control.overlay h
  cases k <;> simp [arms, hp, ho]

theorem Pass.result_ne_invalidTickRate (p : Pass κ W σ ν) :
    p.result ≠ .error (.error .invalidTickRate) := by
  rcases p with ⟨_ | ⟨_, _, _ | _⟩, _, _, _⟩ <;> nofun

theorem startTimer_spec {g : Game κ W σ}
    (hf : ((startTimer : Act ν GameError (Game κ W σ) Unit) g).faulted = false) :
    let o := (startTimer : Act ν GameError (Game κ W σ) Unit) g
    ∃ m, Metronome.ofRate? g.tickRate = .ok (some m) ∧ o.result = .ok () ∧ notesOf o.said = [] ∧
      o.state.scene = g.scene ∧ o.state.control = g.control.started m := by
  rw [startTimer_apply] at hf ⊢
  rcases hm : Metronome.ofRate? g.tickRate with f | _ | m <;> rw [hm] at hf
  · cases hf
  · exact absurd hm (Metronome.ofRate?_ne_none g.rate_pos)
  · exact ⟨m, rfl, rfl, rfl, rfl, rfl⟩

theorem startTimer_faulted_iff (g : Game κ W σ) :
    ((startTimer : Act ν GameError (Game κ W σ) Unit) g).faulted = true ↔
      Metronome.topRate < g.tickRate.toNat := by
  rw [startTimer_apply]
  by_cases hle : g.tickRate.toNat ≤ Metronome.topRate
  · obtain ⟨m, hm⟩ := Metronome.ofRate?_of_le g.rate_pos hle
    simp [hm, Outcome.faulted, Nat.not_lt.2 hle]
  · have hgt := Nat.not_le.1 hle
    simp [Metronome.ofRate?_of_gt hgt, Outcome.faulted, hgt]

variable [Actor κ W ν] [Surface σ ν]

theorem firstPass_spec {g : Game κ W σ} (hf : (g.firstPass ν).faulted = false) :
    ∃ u r, [u, r].map Pass.kind = Pass.Kind.tick ∧
      Consists g (g.firstPass ν).said [u, r] (g.firstPass ν).state.scene ∧
      (g.firstPass ν).result = r.result ∧
      (g.firstPass ν).state.control = if u.stopAsked then g.control.halted else g.control := by
  have hg : { g with arming := true }.grantsStop = true := by simp [grantsStop]
  obtain ⟨u, r, hk, hc, hres, hctl⟩ := tick_spec hf
  rw [hg, Bool.and_true] at hctl
  exact ⟨u, r, hk, ⟨hc.enacts, hc.noted⟩, hres, hctl⟩

/-- What becomes of a game that makes its first pass, `u` and `r`, up to the scene `y`. A pass that
fails changes nothing else. One that does not fail ends the first cycle, and unless a child asked
for a stop a timer `m` starts and leaves the game under the control `run m`. -/
inductive Armed (g : Game κ W σ) (u r : Pass κ W σ ν) (y : Scene W σ) (run : Metronome → Control) :
    Game κ W σ → Prop
  | failed {g' : Game κ W σ} {e : GameError} (hr : r.result = .error (.error e))
      (hs : g'.scene = y)
      (hc : g'.control = if u.stopAsked then g.control.halted else g.control) : Armed g u r y run g'
  | stopped {g' : Game κ W σ} (hr : r.result = .ok ()) (hu : u.stopAsked = true)
      (hs : g'.scene = y.opened) (hc : g'.control = g.control.halted) : Armed g u r y run g'
  | started {g' : Game κ W σ} {m : Metronome} (hr : r.result = .ok ()) (hu : u.stopAsked = false)
      (hm : Metronome.ofRate? g.tickRate = .ok (some m)) (hs : g'.scene = y.opened)
      (hc : g'.control = run m) : Armed g u r y run g'

theorem arm_spec {g : Game κ W σ} (hp : g.phase ≠ .stopped)
    (hf : ((arm : Act ν GameError (Game κ W σ) Unit) g).faulted = false) :
    let o := (arm : Act ν GameError (Game κ W σ) Unit) g
    ∃ u r y, [u, r].map Pass.kind = Pass.Kind.tick ∧ Consists g o.said [u, r] y ∧
      o.result = r.result ∧ Armed g u r y g.control.started o.state := by
  have hspec := g.firstPass_spec (ν := ν)
  rw [arm_apply] at hf ⊢
  rcases h : g.firstPass ν with ⟨(e | f) | _, g', l⟩ <;> rw [h] at hspec <;> simp only [h] at hf ⊢
  · obtain ⟨u, r, hk, hc, hres, hctl⟩ := hspec rfl
    exact ⟨u, r, g'.scene, hk, hc, hres, .failed hres.symm rfl hctl⟩
  · cases hf
  · obtain ⟨u, r, hk, hc, hres, hctl⟩ := hspec rfl
    change g'.control = _ at hctl
    refine ⟨u, r, g'.scene, hk, ?_⟩
    cases hu : u.stopAsked with
    | true =>
      rw [hu, if_pos rfl] at hctl
      have hp' : g'.phase = .stopped := congrArg Control.phase hctl
      rw [if_pos hp']
      exact ⟨hc, hres, .stopped hres.symm hu rfl hctl⟩
    | false =>
      rw [hu, if_neg (by decide)] at hctl
      have hrate : g'.opened.tickRate = g.tickRate := congrArg Control.tickRate hctl
      have hp' : ¬g'.phase = .stopped := by
        rw [show g'.phase = g.phase from congrArg Control.phase hctl]
        exact hp
      rw [if_neg hp'] at hf ⊢
      obtain ⟨m, hm, hok, hnotes, hs, hstart⟩ := startTimer_spec hf
      rw [hrate] at hm
      refine ⟨⟨hc.enacts, ?_⟩, hok.trans hres, .started hres.symm hu hm hs ?_⟩
      · simpa [hnotes] using hc.noted
      · exact hstart.trans (congrArg (Control.started · m) hctl)

/-- What `start` and `gesture` do when there is nothing to wait for. -/
def launch : Act ν GameError (Game κ W σ) Unit := do
  arm
  modify fun g => { g with overlay := none }

theorem launch_spec {g : Game κ W σ} (hp : g.phase ≠ .stopped)
    (hf : ((launch : Act ν GameError (Game κ W σ) Unit) g).faulted = false) :
    let o := (launch : Act ν GameError (Game κ W σ) Unit) g
    ∃ u r y, [u, r].map Pass.kind = Pass.Kind.tick ∧ Consists g o.said [u, r] y ∧
      o.result = r.result ∧
      Armed g u r y (fun m => { g.control.started m with overlay := none }) o.state := by
  obtain ⟨u, r, y, hk, hc, hres, ha⟩ := arm_spec hp (Act.faulted_of_bind hf).1
  refine ⟨u, r, y, hk, ?_⟩
  simp only [launch, Act.bind_apply]
  cases ha with
  | failed hr hs hctl =>
    rw [hres, hr]
    exact ⟨hc, rfl, .failed hr hs hctl⟩
  | stopped hr hu hs hctl =>
    rw [hres, hr]
    refine ⟨by simpa using hc, rfl, .stopped hr hu hs ?_⟩
    exact congrArg (fun c : Control => { c with overlay := none }) hctl
  | started hr hu hm hs hctl =>
    rw [hres, hr]
    refine ⟨by simpa using hc, rfl, .started hr hu hm hs ?_⟩
    exact congrArg (fun c : Control => { c with overlay := none }) hctl

theorem launch_of_no_overlay {g : Game κ W σ} (hp : g.phase ≠ .stopped) (ho : g.overlay = none) :
    (launch : Act ν GameError (Game κ W σ) Unit) g = arm g := by
  rw [launch, Act.bind_apply]
  rcases h : (arm : Act ν GameError (Game κ W σ) Unit) g with ⟨x | _, g', l⟩
  · rfl
  · have hs := arm_spec (ν := ν) hp (by rw [h]; rfl)
    rw [h] at hs
    obtain ⟨u, r, y, _, _, hres, ha⟩ := hs
    have ho' : g'.overlay = none := by
      cases ha with
      | failed hr hs hctl =>
        rw [hr] at hres
        cases hres
      | stopped hr hu hs hctl => exact congrArg Control.overlay hctl
      | started hr hu hm hs hctl => exact (congrArg Control.overlay hctl).trans ho
    change (⟨.ok (), { g' with overlay := none }, l ++ []⟩ : Outcome ν _ _ _) = ⟨.ok (), g', l⟩
    rw [List.append_nil, ← ho']

theorem arm_broken {g : Game κ W σ}
    (hf : ((arm : Act ν GameError (Game κ W σ) Unit) g).faulted = true) :
    let o := (arm : Act ν GameError (Game κ W σ) Unit) g
    ∃ ps rest y, ps.map Pass.kind <+: Pass.Kind.tick ∧ BreaksOff g o.said ps rest y ∧
      o.state.ticks = y.ticks := by
  rw [arm_apply] at hf ⊢
  rcases h : g.firstPass ν with ⟨(e | f) | _, g', l⟩ <;> simp only [h] at hf ⊢
  · cases hf
  · have hb := tick_broken (ν := ν) (g := { g with arming := true })
      (by rw [show tick _ = _ from h]; rfl)
    rw [show tick _ = _ from h] at hb
    obtain ⟨ps, rest, y, hk, hb, hy⟩ := hb
    exact ⟨ps, rest, y, hk, ⟨hb.enacts, hb.breaks, hb.noted⟩, hy⟩
  · have hs := g.firstPass_spec (ν := ν) (by rw [h]; rfl)
    rw [h] at hs
    obtain ⟨u, r, hk, hc, _⟩ := hs
    by_cases hp : g'.phase = .stopped
    · rw [if_pos hp] at hf
      cases hf
    · rw [if_neg hp, startTimer_apply] at hf ⊢
      rcases hm : Metronome.ofRate? g'.opened.tickRate with f | _ | m <;> simp only [hm] at hf ⊢
      · -- the pass is over, and the timer cannot be made
        refine ⟨[u, r], [], g'.scene, hk ▸ List.prefix_rfl, ⟨hc.enacts, .outside, ?_⟩, rfl⟩
        simpa using hc.noted
      · cases hf
      · cases hf

theorem launch_broken {g : Game κ W σ}
    (hf : ((launch : Act ν GameError (Game κ W σ) Unit) g).faulted = true) :
    let o := (launch : Act ν GameError (Game κ W σ) Unit) g
    ∃ ps rest y, ps.map Pass.kind <+: Pass.Kind.tick ∧ BreaksOff g o.said ps rest y ∧
      o.state.ticks = y.ticks := by
  rcases Act.faulted_bind hf with ⟨ha, hst, hl⟩ | ⟨_, _, hm⟩
  · obtain ⟨ps, rest, y, hk, hb, hy⟩ := arm_broken ha
    rw [← hl] at hb
    exact ⟨ps, rest, y, hk, hb, (congrArg Game.ticks hst).trans hy⟩
  · cases hm

/-- A command that makes the first pass does nothing else. -/
theorem perform_of_arms {k : Command κ W σ ν} {g : Game κ W σ} (ha : k.arms g = true) :
    k.perform g = ((fun _ => .done) <$> launch : Act ν GameError (Game κ W σ) (Answer κ)) g ∧
      g.phase ≠ .stopped ∧ g.phase ≠ .running := by
  rcases Command.arms_iff.1 ha with ⟨rfl, hp, ho⟩ | ⟨rfl, hp⟩
  · have hne : g.phase ≠ .stopped := by simp [hp]
    refine ⟨?_, hne, by simp [hp]⟩
    rw [Command.perform, Act.map_apply, Act.map_apply, start_of_no_overlay hp ho,
      launch_of_no_overlay hne ho]
  · refine ⟨?_, by simp [hp], by simp [hp]⟩
    rw [Command.perform, Act.map_apply, Act.map_apply, gesture_of_waiting hp]
    rfl

theorem perform_armed {k : Command κ W σ ν} {g : Game κ W σ} (ha : k.arms g = true)
    (hf : (k.perform g).faulted = false) :
    ∃ u r y, [u, r].map Pass.kind = Pass.Kind.tick ∧ Consists g (k.perform g).said [u, r] y ∧
      (k.perform g).result = (r.result.map fun _ => .done) ∧
      Armed g u r y (fun m => { g.control.started m with overlay := none })
        (k.perform g).state := by
  obtain ⟨hk, hstop, _⟩ := perform_of_arms ha
  rw [hk] at hf ⊢
  rw [Act.map_faulted] at hf
  obtain ⟨u, r, y, hkinds, hc, hres, harmed⟩ := launch_spec hstop hf
  exact ⟨u, r, y, hkinds, hc, by rw [Act.map_apply, hres], harmed⟩

/-- A first pass that fails. Nothing but the two passes reaches the data, and unless a child asked
for a stop the same command can be given again. -/
structure Refused (k : Command κ W σ ν) (g : Game κ W σ) (e : GameError) (u r : Pass κ W σ ν) :
    Prop where
  kinds : [u, r].map Pass.kind = Pass.Kind.tick
  passes : Consists g (k.perform g).said [u, r] (k.perform g).state.scene
  failure : r.result = .error (.error e)
  timer : (k.perform g).state.timer = none
  arming : (k.perform g).state.arming = false
  stands : if u.stopAsked then
      (k.perform g).state.phase = .stopped ∧ (k.perform g).state.overlay = none
    else
      (k.perform g).state.phase = g.phase ∧ (k.perform g).state.overlay = g.overlay ∧
        k.arms (k.perform g).state = true

structure Opened (k : Command κ W σ ν) (g : Game κ W σ) (u r : Pass κ W σ ν) (y : Scene W σ) :
    Prop where
  kinds : [u, r].map Pass.kind = Pass.Kind.tick
  passes : Consists g (k.perform g).said [u, r] y
  scene : (k.perform g).state.scene = y.opened
  firstCycle : (k.perform g).state.data.bool? Blackboard.firstCycle = some false
  overlay : (k.perform g).state.overlay = none
  arming : (k.perform g).state.arming = false
  stands : if u.stopAsked then
      (k.perform g).state.phase = .stopped ∧ (k.perform g).state.timer = none
    else
      (k.perform g).state.phase = .running ∧ ∃ m, (k.perform g).state.timer = some m ∧
        m.pending = .zero ∧ m.fired = 0 ∧ m.period = Metronome.periodOfRate g.tickRate ∧
        m.cap.toNat = max 1 g.maxCatchUp.toNat

theorem perform_refused {c : Config} {g : Game κ W σ} (h : Reachable ν c g) {k : Command κ W σ ν}
    (ha : k.arms g = true) {e : GameError} (he : (k.perform g).result = .error (.error e)) :
    ∃ u r, Refused k g e u r := by
  have hf : (k.perform g).faulted = false := by rw [Outcome.faulted, he]
  have harm := perform_arming h.arming_eq hf
  have ht : g.control.timer = none := h.settled.timer_eq_none (perform_of_arms ha).2.2
  obtain ⟨u, r, y, hkinds, hc, hres, harmed⟩ := perform_armed ha hf
  cases harmed with
  | failed hr hs hctl =>
    rw [hr] at hres
    cases he.symm.trans hres
    refine ⟨u, r, hkinds, hs ▸ hc, hr, ?_, harm, ?_⟩
    · change (k.perform g).state.control.timer = none
      rw [hctl]
      split
      · rfl
      · exact ht
    · cases hu : u.stopAsked with
      | true =>
        rw [hu] at hctl
        exact ⟨congrArg Control.phase hctl, congrArg Control.overlay hctl⟩
      | false =>
        rw [hu] at hctl
        exact ⟨congrArg Control.phase hctl, congrArg Control.overlay hctl,
          (Command.arms_congr hctl).trans ha⟩
  | stopped hr =>
    rw [hr] at hres
    cases he.symm.trans hres
  | started hr =>
    rw [hr] at hres
    cases he.symm.trans hres

theorem perform_opened {c : Config} {g : Game κ W σ} (h : Reachable ν c g) {k : Command κ W σ ν}
    (ha : k.arms g = true) {a : Answer κ} (hok : (k.perform g).result = .ok a) :
    ∃ u r y, Opened k g u r y := by
  have hf : (k.perform g).faulted = false := by rw [Outcome.faulted, hok]
  have harm := perform_arming h.arming_eq hf
  obtain ⟨u, r, y, hkinds, hc, hres, harmed⟩ := perform_armed ha hf
  have hfirst (hs : (k.perform g).state.scene = y.opened) :
      (k.perform g).state.data.bool? Blackboard.firstCycle = some false := by
    rw [show (k.perform g).state.data = y.opened.data from congrArg Scene.data hs]
    simp [Scene.opened, Blackboard.bool?, Value.bool?]
  cases harmed with
  | failed hr =>
    rw [hr] at hres
    cases hok.symm.trans hres
  | stopped hr hu hs hctl =>
    refine ⟨u, r, y, hkinds, hc, hs, hfirst hs, congrArg Control.overlay hctl, harm, ?_⟩
    rw [hu]
    exact ⟨congrArg Control.phase hctl, congrArg Control.timer hctl⟩
  | @started m hr hu hm hs hctl =>
    refine ⟨u, r, y, hkinds, hc, hs, hfirst hs, congrArg Control.overlay hctl, harm, ?_⟩
    obtain ⟨hperiod, hpending, hfired⟩ := Metronome.ofRate?_eq_some hm
    rw [hu]
    refine ⟨congrArg Control.phase hctl, m.withCap g.maxCatchUp, congrArg Control.timer hctl, ?_⟩
    rw [Metronome.withCap_pending, Metronome.withCap_fired, Metronome.withCap_period]
    exact ⟨hpending, hfired, hperiod, Metronome.withCap_cap m _⟩

/-- A first pass either leaves everything to try again, or stops the game, or opens it. -/
theorem perform_of_arms_settles {c : Config} {g : Game κ W σ} (h : Reachable ν c g)
    {k : Command κ W σ ν} (ha : k.arms g = true) :
    (∀ e, (k.perform g).result = .error (.error e) → ∃ u r, Refused k g e u r) ∧
      ∀ a, (k.perform g).result = .ok a → ∃ u r y, Opened k g u r y :=
  ⟨fun _ he => perform_refused h ha he, fun _ hok => perform_opened h ha hok⟩

/-- The player cannot be drawn in the first pass after a gesture; after a second gesture it can. -/
theorem perform_of_arms_settles_rehearsal :
    let k : Command MemberId Troupe Screen Event := .gesture
    let g := rehearse [.start, .add ⟨0⟩]
    let g' := rehearse [.start, .add ⟨0⟩, .gesture]
    k.arms g = true ∧ k.arms g' = true ∧
      (∃ u r, Refused k g (.render .noCostumes) u r) ∧ ∃ u r y, Opened k g' u r y := by
  intro k g g'
  have h : Reachable Event { needsGesture := true } g := rehearse_reachable (by decide +kernel)
  have h' : Reachable Event { needsGesture := true } g' := rehearse_reachable (by decide +kernel)
  have ha : k.arms g = true := by decide +kernel
  have ha' : k.arms g' = true := by decide +kernel
  obtain ⟨a, hok⟩ := Outcome.result_of_succeeded
    (show (k.perform g').succeeded = true by decide +kernel)
  exact ⟨ha, ha', (perform_of_arms_settles h ha).1 _ rfl, (perform_of_arms_settles h' ha').2 a hok⟩

/-- No child faults in the pass that a game makes next. -/
structure Steady (ν : Type) [Actor κ W ν] [Surface σ ν] (g : Game κ W σ) : Prop where
  turns : (g.turns ν).faulted = false
  draws : ((Actor.renderAll g.children : Act ν RenderError (W × σ) Unit)
    ((g.turns ν).state.2, g.surface)).faulted = false

theorem render_faulted (g : Game κ W σ) :
    ((render : Act ν GameError (Game κ W σ) Unit) g).faulted =
      ((Actor.renderAll g.children : Act ν RenderError (W × σ) Unit)
        (g.world, g.surface)).faulted := by
  rcases h : (Actor.renderAll g.children : Act ν RenderError (W × σ) Unit) (g.world, g.surface)
    with ⟨(e | f) | _, q, l⟩ <;>
  simp [render, Act.bind_apply, Act.zoom_apply, Act.mapError_apply, h, Outcome.mapState,
    Outcome.faulted, Halt.map]

theorem Steady.firstPass_faulted {g : Game κ W σ} (hs : g.Steady ν) :
    (g.firstPass ν).faulted = !g.hasRoom := by
  obtain ⟨ht, hd⟩ := hs
  have hroom : { g with arming := true }.hasRoom = g.hasRoom := rfl
  rcases h : g.turns ν with ⟨(e | f) | asked, p, l⟩ <;> rw [h] at ht hd
  · exact e.elim
  · cases ht
  · have h' : { g with arming := true }.turns ν = ⟨.ok asked, p, l⟩ := h
    rw [firstPass, tick, Act.bind_apply]
    cases hr : g.hasRoom with
    | false =>
      rw [update_apply, h']
      simp [hroom, hr, Outcome.faulted]
    | true =>
      obtain ⟨m, _, he⟩ := update_eq_ok (ε := GameError) h' (hroom.trans hr)
      rw [he]
      simp only [Outcome.after_faulted, render_faulted]
      split <;> exact hd

def wantsTimer (ν : Type) [Actor κ W ν] [Surface σ ν] (g : Game κ W σ) : Bool :=
  (g.firstPass ν).succeeded && decide ((g.firstPass ν).state.phase ≠ .stopped)

theorem launch_faulted_iff (g : Game κ W σ) :
    ((launch : Act ν GameError (Game κ W σ) Unit) g).faulted = true ↔
      (g.firstPass ν).faulted = true ∨
        g.wantsTimer ν = true ∧ Metronome.topRate < g.tickRate.toNat := by
  have hl : ((launch : Act ν GameError (Game κ W σ) Unit) g).faulted =
      ((arm : Act ν GameError (Game κ W σ) Unit) g).faulted := by
    rw [launch, Act.bind_apply]
    rcases (arm : Act ν GameError (Game κ W σ) Unit) g with ⟨(e | f) | _, _, _⟩ <;> rfl
  rw [hl, arm_apply, wantsTimer]
  have hctl := g.firstPass_control (ν := ν)
  rcases h : g.firstPass ν with ⟨(e | f) | _, g', l⟩ <;> rw [h] at hctl
  · simp [Outcome.faulted, Outcome.succeeded]
  · simp [Outcome.faulted]
  · by_cases hp : g'.phase = .stopped
    · simp [hp, Outcome.faulted]
    · have hrate : g'.opened.tickRate = g.tickRate := by
        rcases hctl with hc | hc <;> exact congrArg Control.tickRate hc
      have hst := startTimer_faulted_iff (ν := ν) g'.opened
      rw [hrate] at hst
      simp only [hp, if_false, Outcome.after_faulted, hst]
      simp [Outcome.faulted, Outcome.succeeded, hp]

theorem perform_of_not_arms {k : Command κ W σ ν} {g : Game κ W σ}
    (hk : k = .start ∨ k = .gesture) (ha : k.arms g = false) :
    (k.perform g).faulted = false ∧ notesOf (k.perform g).said = [] ∧
      (k.perform g).state.scene = g.scene ∧ (k.perform g).state.backstage = g.backstage ∧
      (k.perform g).result ≠ .error (.error .invalidTickRate) := by
  rcases hk with rfl | rfl
  · rw [Command.perform, Act.map_apply]
    by_cases hp : g.phase = .created
    · cases ho : g.overlay with
      | none => simp [Command.arms, hp, ho] at ha
      | some o =>
        rw [start_of_overlay hp ho]
        refine ⟨rfl, rfl, rfl, rfl, ?_⟩
        rintro ⟨⟩
    · rw [start_of_not_created hp]
      refine ⟨rfl, rfl, rfl, rfl, ?_⟩
      rintro ⟨⟩
  · have hp : g.phase ≠ .waiting := by simpa [Command.arms] using ha
    rw [Command.perform, Act.map_apply, gesture_of_not_waiting hp]
    refine ⟨rfl, rfl, rfl, rfl, ?_⟩
    rintro ⟨⟩

theorem perform_ne_invalidTickRate {k : Command κ W σ ν} {g : Game κ W σ}
    (hk : k = .start ∨ k = .gesture) :
    (k.perform g).result ≠ .error (.error .invalidTickRate) := by
  cases ha : k.arms g with
  | false => exact (perform_of_not_arms hk ha).2.2.2.2
  | true =>
    intro he
    obtain ⟨u, r, y, _, _, hres, _⟩ := perform_armed ha (by rw [Outcome.faulted, he])
    cases hr : r.result with
    | error x =>
      rw [hr] at hres
      cases he.symm.trans hres
      exact r.result_ne_invalidTickRate hr
    | ok _ =>
      rw [hr] at hres
      cases he.symm.trans hres

/-- A game whose children are steady faults at its start exactly when its rate is too high for a
timer, and then only after its first pass. -/
theorem perform_faulted_iff {c : Config} {g : Game κ W σ} (h : Reachable ν c g)
    (hs : g.Steady ν) {k : Command κ W σ ν} (hk : k = .start ∨ k = .gesture) :
    (k.perform g).result ≠ .error (.error .invalidTickRate) ∧
      ((k.perform g).faulted = true ↔ k.arms g = true ∧ (g.hasRoom = false ∨
        g.wantsTimer ν = true ∧ Metronome.topRate < c.tickRate.toNat)) ∧
      ((∃ m, Metronome.ofRate? c.tickRate = .ok (some m) ∧ 0 < m.period.nanos) ↔
        c.tickRate.toNat ≤ Metronome.topRate) := by
  have hrate := h.rates_eq.1
  have hpos : 0 < c.tickRate.toNat := hrate ▸ g.rate_pos
  refine ⟨perform_ne_invalidTickRate hk, ?_, ?_⟩
  · cases ha : k.arms g with
    | false => simp [(perform_of_not_arms hk ha).1]
    | true =>
      rw [(perform_of_arms ha).1, Act.map_faulted, launch_faulted_iff, hs.firstPass_faulted, hrate]
      simp
  · constructor
    · rintro ⟨m, hm, _⟩
      refine Nat.not_lt.1 fun hgt => ?_
      rw [Metronome.ofRate?_of_gt hgt] at hm
      cases hm
    · intro hle
      obtain ⟨m, hm⟩ := Metronome.ofRate?_of_le hpos hle
      exact ⟨m, hm, m.period_pos⟩

/-- A game without children whose rate is one above the highest that has a period. -/
def hasty : Game MemberId Troupe Screen where
  surface := { width := 4, height := 3 }
  tickRate := 2000000001
  maxCatchUp := Metronome.defaultCap
  data := ({} : Blackboard).set Blackboard.firstCycle (.bool true)
  world := {}
  rate_pos := by decide

theorem hasty_created :
    ((create hasty.surface hasty.world { tickRate := 2000000001 } :
      Act Event GameError Unit (Game MemberId Troupe Screen)) ()).result = .ok hasty := rfl

/-- At a common rate the second gesture starts the timer; at the rate of `hasty` the start faults. -/
theorem perform_faulted_iff_hasty :
    let k : Command MemberId Troupe Screen Event := .gesture
    let g := rehearse [.start, .add ⟨0⟩, .gesture]
    (g.Steady Event ∧ g.wantsTimer Event = true ∧ (k.perform g).faulted = false) ∧
      hasty.Steady Event ∧ ((Command.start : Command _ _ _ Event).perform hasty).faulted = true := by
  intro k g
  have hg : g.Steady Event := ⟨by decide +kernel, by decide +kernel⟩
  have hh : hasty.Steady Event := ⟨rfl, rfl⟩
  refine ⟨⟨hg, by decide +kernel, ?_⟩, hh, ?_⟩
  · have h : Reachable Event { needsGesture := true } g := rehearse_reachable (by decide +kernel)
    have hiff := (perform_faulted_iff h hg (k := k) (.inr rfl)).2.1
    refine Bool.eq_false_iff.2 fun hf => ?_
    rcases (hiff.1 hf).2 with hroom | ⟨_, hrate⟩
    · exact absurd hroom (by decide +kernel)
    · exact absurd hrate (by decide +kernel)
  · exact (perform_faulted_iff (.created hasty_created) hh (.inl rfl)).2.1.2
      ⟨rfl, .inr ⟨by decide +kernel, by decide +kernel⟩⟩

/-- A rate that a new game accepts need not be one that it can be started at. -/
theorem start_faults_at_accepted_rate :
    ((create hasty.surface hasty.world { tickRate := 2000000001 } :
      Act Event GameError Unit (Game MemberId Troupe Screen)) ()).result = .ok hasty ∧
      hasty.children = [] ∧
      Metronome.ofRate? 2000000001 = .error .emptyPeriod ∧
      ((Command.start : Command _ _ _ Event).perform hasty).faulted = true :=
  ⟨rfl, rfl, Metronome.ofRate?_of_gt (by decide +kernel), by decide +kernel⟩

end Stagecraft.Game
