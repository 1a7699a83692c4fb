import Stagecraft.Proofs.Game.Enactment
import Stagecraft.Proofs.Game.Schedule

/-!
Slices of time. Main statement: a running game does the same whether the time that passes reaches
it at once or in slices, as long as no backlog is dropped and the timer can count the periods
(`advanceAll_slices`). There are games that come to the end of this count
(`slices_fit_where_whole_overflows`).
-/

set_option autoImplicit false

namespace Stagecraft

namespace Outcome

variable {ν ε S α β : Type}

/-- Two outcomes succeed and are the same, or neither succeeds. What a failure leaves behind may
differ. -/
structure Agrees (o o' : Outcome ν ε S α) : Prop where
  succeeded_eq : o.succeeded = o'.succeeded
  eq_of_succeeded : o'.succeeded = true → o = o'

namespace Agrees

variable {o o₁ o₂ : Outcome ν ε S α}

theorem of_eq (h : o = o₁) : o.Agrees o₁ := by
  subst h
  exact ⟨rfl, fun _ => rfl⟩

theorem of_error {x y : Halt ε} {s t : S} {l k : List (Entry ν)} :
    (⟨.error x, s, l⟩ : Outcome ν ε S α).Agrees ⟨.error y, t, k⟩ :=
  ⟨rfl, nofun⟩

protected theorem trans (h : o.Agrees o₁) (h₁ : o₁.Agrees o₂) : o.Agrees o₂ := by
  refine ⟨h.succeeded_eq.trans h₁.succeeded_eq, fun hs => ?_⟩
  rw [h.eq_of_succeeded (h₁.succeeded_eq.trans hs), h₁.eq_of_succeeded hs]

theorem after (h : o.Agrees o₁) (l : List (Entry ν)) : (o.after l).Agrees (o₁.after l) :=
  ⟨h.succeeded_eq, fun hs => by rw [h.eq_of_succeeded hs]⟩

theorem map {a b : Act ν ε S α} {s : S} (h : (a s).Agrees (b s)) (f : α → β) :
    ((f <$> a) s).Agrees ((f <$> b) s) := by
  refine ⟨by simpa using h.succeeded_eq, fun hs => ?_⟩
  rw [Act.map_succeeded] at hs
  rw [Act.map_apply, Act.map_apply, h.eq_of_succeeded hs]

theorem bind {a : Act ν ε S α} {k k' : α → Act ν ε S β} {s : S}
    (h : ∀ x, (a s).result = .ok x → (k x (a s).state).Agrees (k' x (a s).state)) :
    ((a >>= k) s).Agrees ((a >>= k') s) := by
  rw [Act.bind_apply, Act.bind_apply]
  cases hr : (a s).result with
  | error x => exact .of_error
  | ok x => exact (h x hr).after _

end Agrees

end Outcome

namespace Game

variable {κ W σ ν : Type}

theorem retime_retime (f f' : Metronome → Metronome) (g : Game κ W σ) :
    (g.retime f).retime f' = g.retime (f' ∘ f) := by
  simp [retime]

theorem retime_eq_self {g : Game κ W σ} {f : Metronome → Metronome}
    (h : g.timer.map f = g.timer) : g.retime f = g := by
  rw [retime, h]

variable [Actor κ W ν] [Surface σ ν]

def advanceAll : List Duration → Act ν GameError (Game κ W σ) Nat
  | [] => pure 0
  | d :: ds => do
    let n ← advance d
    (n + ·) <$> advanceAll ds

theorem advanceAll_of_no_timer (ds : List Duration) {g : Game κ W σ} (h : g.timer = none) :
    (advanceAll ds : Act ν GameError (Game κ W σ) Nat) g = ⟨.ok 0, g, []⟩ := by
  induction ds with
  | nil => rfl
  | cons d ds ih =>
    simp [advanceAll, Act.bind_apply, advance_of_no_timer h, Act.map_apply, ih, Except.map]

/-- As long as nothing is lost, the passes of an `advance` are those that are due, and the timer
is set forward by all of the time. -/
theorem advance_of_lossless {g : Game κ W σ} {m : Metronome} {d : Duration}
    (hm : g.timer = some m) (hl : m.Lossless d) (hr : m.hasRoom d = true) :
    (advance d : Act ν GameError (Game κ W σ) Nat) g =
      (ticksWhileRunning (m.due d) g).mapState (retime fun _ => m.fed d) := by
  have hg : { g with timer := some (m.fed d) } = g.retime fun _ => m.fed d := by
    simp [retime, hm]
  rw [advance_apply hm, if_pos hr, hl.dropNotice_eq, Outcome.after_nil, hg,
    ticksWhileRunning_retime]

/-- A tick that fails ends an `advance`, whatever else is due. -/
theorem advance_of_failed_tick {g : Game κ W σ} {m : Metronome} {d : Duration}
    (hm : g.timer = some m) (hg : g.isRunning = true) (hr : m.hasRoom d = true)
    (hdue : 0 < m.due d) {x : Halt GameError}
    (hx : ((tick : Act ν GameError (Game κ W σ) Unit)
      { g with timer := some (m.fed d) }).result = .error x) :
    let o := (advance d : Act ν GameError (Game κ W σ) Nat) g
    o.result = .error x ∧ o.state =
      ((tick : Act ν GameError (Game κ W σ) Unit) { g with timer := some (m.fed d) }).state := by
  obtain ⟨k, hk⟩ := Nat.exists_eq_add_of_lt hdue
  have hg' : { g with timer := some (m.fed d) }.isRunning = true := hg
  rw [advance_apply hm, if_pos hr, hk, Nat.zero_add, ticksWhileRunning_succ hg', Act.bind_apply, hx]
  exact ⟨rfl, rfl⟩

/-- The rest of the time finds a game that runs on, or one that was stopped before. -/
theorem advance_rest {g g' : Game κ W σ} {m : Metronome} {d e s : Duration}
    (hm : g.timer = some m) (hp : Passed g g') (hl : m.Lossless s) (hr : m.hasRoom s = true)
    (hs : s.nanos = d.nanos + e.nanos) :
    (advance e : Act ν GameError (Game κ W σ) Nat) (g'.retime fun _ => m.fed d) =
      (ticksWhileRunning ((m.fed d).due e) g').mapState (retime fun _ => m.fed s) := by
  rcases hp with ⟨_, _, _, _, rfl⟩ | ⟨_, _, _, _, _, rfl⟩
  · rw [advance_of_lossless (by simp [retime, hm]) (hl.second hs) (hl.hasRoom_add hs hr).2,
      hl.fed_add hs hr, ticksWhileRunning_retime]
    simp [Outcome.mapState, retime_retime, Function.comp_def]
  · rw [retime_eq_self rfl, advance_of_no_timer rfl, ticksWhileRunning_of_not_running rfl]
    rfl

theorem advance_add_agrees {g : Game κ W σ} {m : Metronome} {d e s : Duration}
    (hm : g.timer = some m) (hl : m.Lossless s) (hr : m.hasRoom s = true)
    (hs : s.nanos = d.nanos + e.nanos) :
    ((advance d >>= fun n => (n + ·) <$> advance e : Act ν GameError (Game κ W σ) Nat) g).Agrees
      (advance s g) := by
  have hp := ticksWhileRunning_passed (ν := ν) (m.due d) g
  rw [advance_of_lossless hm hl hr, hl.due_add hs, ticksWhileRunning_add, Act.bind_apply,
    Act.bind_apply, advance_of_lossless hm (hl.first hs) (hl.hasRoom_add hs hr).1]
  rcases h : ticksWhileRunning (ν := ν) (m.due d) g with ⟨x | n, g', l⟩ <;> rw [h] at hp
  · exact .of_error
  · have he := advance_rest (ν := ν) hm hp hl hr hs
    refine .of_eq ?_
    simp [Outcome.mapState, Outcome.after, Act.map_apply, he]

theorem advanceAll_agrees (ds : List Duration) {g : Game κ W σ} {m : Metronome} {s : Duration}
    (hm : g.timer = some m) (hlt : m.pending.nanos < m.period.nanos)
    (hs : s.nanos = Duration.total ds) (hl : m.Lossless s) (hr : m.hasRoom s = true) :
    ((advanceAll ds : Act ν GameError (Game κ W σ) Nat) g).Agrees (advance s g) := by
  induction ds generalizing g m s with
  | nil =>
    have hf : g.retime (fun _ => m.fed s) = g :=
      retime_eq_self (by simp [hm, Metronome.fed_of_zero hlt hs])
    rw [advance_of_lossless hm hl hr, Metronome.due_of_zero hlt hs]
    refine .of_eq ?_
    simp [advanceAll, ticksWhileRunning, Outcome.mapState, hf]
  | cons d ds ih =>
    -- two slices, the first and all the rest; the rest is cut up where the first one ended
    rw [Duration.total] at hs
    have hle := s.le_max
    let e : Duration := ⟨Duration.total ds, by omega⟩
    have hsum : s.nanos = d.nanos + e.nanos := hs
    rw [advanceAll]
    refine .trans (.bind fun n _ => .map ?_ _) (advance_add_agrees hm hl hr hsum)
    rcases advance_passed (ν := ν) hm d with ⟨_, _, _, _, hg'⟩ | ⟨_, _, _, _, _, hg'⟩
    · rw [hg']
      exact ih rfl (by simpa using m.kept_lt d) rfl (hl.second hsum) (hl.hasRoom_add hsum hr).2
    · rw [hg', advanceAll_of_no_timer ds rfl, advance_of_no_timer rfl]
      exact .of_eq rfl

/-- As long as nothing is lost of the time, it makes no difference to a running game in which
slices it passes. All at once, the count of periods has to take them all before the first tick,
and so it may overflow where slices that a stop cuts short do not. -/
theorem advanceAll_slices {c : Config} {g : Game κ W σ} (hg : Reachable ν c g) {m : Metronome}
    (hm : g.timer = some m) (ds : List Duration) {s : Duration} (hs : s.nanos = Duration.total ds)
    (hfits : m.pending.nanos + s.nanos ≤ maxNanos)
    (hcap : (m.pending.nanos + s.nanos) / m.period.nanos ≤ m.cap.toNat) :
    let whole := (advance s : Act ν GameError (Game κ W σ) Nat) g
    let sliced := (advanceAll ds : Act ν GameError (Game κ W σ) Nat) g
    let fits := m.fired + (m.pending.nanos + s.nanos) / m.period.nanos < 2 ^ 64
    (whole.succeeded = true ↔ sliced.succeeded = true ∧ fits) ∧
    (whole.succeeded = true → sliced = whole) ∧
    (¬fits → whole.result = .error (.fault .addOverflow)) := by
  have hl : m.Lossless s := ⟨hfits, hcap⟩
  intro whole sliced fits
  have hroom : m.hasRoom s = true ↔ fits := by
    rw [Metronome.hasRoom_iff, hl.due_eq]
  by_cases hf : fits
  · have ha : sliced.Agrees whole :=
      advanceAll_agrees ds hm (hg.pending_lt m hm) hs hl (hroom.2 hf)
    exact ⟨by simp [ha.succeeded_eq, hf], ha.eq_of_succeeded, absurd hf⟩
  · have hw : whole.result = .error (.fault .addOverflow) := by
      simp only [whole, advance_apply hm, if_neg (mt hroom.1 hf)]
    have hn : whole.succeeded = false := by rw [Outcome.succeeded, hw]
    exact ⟨by simp [hn, hf], by simp [hn], fun _ => hw⟩

/-- The player asks for a stop in the second of four slices, and the others find a stopped
game. -/
theorem advanceAll_slices_rehearsal :
    let g := rehearse [.start, .add ⟨0⟩, .gesture, .gesture, .advance (.ofNanos 50000000)]
    let slices := List.replicate 4 (Duration.ofNanos 20000000)
    let whole := Duration.ofNanos 80000000
    (advance (ν := Event) whole g).succeeded = true ∧
      advanceAll (ν := Event) slices g = advance whole g := by
  intro g slices whole
  have hg : Reachable Event { needsGesture := true } g := rehearse_reachable (by decide +kernel)
  have hm := (Option.some_get (show g.timer.isSome = true by decide +kernel)).symm
  have hw : (advance (ν := Event) whole g).succeeded = true := by decide +kernel
  exact ⟨hw, (advanceAll_slices hg hm slices (by decide +kernel) (by decide +kernel)
    (by decide +kernel)).2.1 hw⟩

end Game

namespace Metronome

/-- A period takes a nanosecond, nothing is pending, one call reports as many periods as 32 bits can
count, and `n` were reported. -/
structure Rapid (m : Metronome) (n : Nat) : Prop where
  period : m.period.nanos = 1
  pending : m.pending.nanos = 0
  cap : m.cap.toNat = 4294967295
  fired : m.fired = n

namespace Rapid

variable {m : Metronome} {n : Nat} {d : Duration}

theorem pile_eq (h : m.Rapid n) : m.pile d = d.nanos := by
  rw [Metronome.pile_eq, h.pending, Nat.zero_add]
  rw [h.pending, Nat.zero_add]
  exact d.le_max

theorem due_eq (h : m.Rapid n) (hd : d.nanos ≤ 4294967295) : m.due d = d.nanos := by
  rw [due, h.pile_eq, h.period, h.cap, Nat.div_one, Nat.min_eq_right hd]

theorem hasRoom_iff (h : m.Rapid n) (hd : d.nanos ≤ 4294967295) :
    m.hasRoom d = true ↔ n + d.nanos < 2 ^ 64 := by
  rw [Metronome.hasRoom_iff, h.due_eq hd, h.fired]

theorem fed (h : m.Rapid n) (hd : d.nanos ≤ 4294967295) (hr : m.hasRoom d = true) :
    (m.fed d).Rapid (n + d.nanos) := by
  refine ⟨h.period, ?_, h.cap, ?_⟩
  · rw [fed_pending, kept_eq (by rw [h.period]; decide), h.period, Nat.mod_one]
  · rw [Metronome.fed, hr, if_pos rfl, h.due_eq hd, h.fired]

end Rapid

end Metronome

namespace Game

/-- Children of two kinds: the one cannot be drawn, the other one asks for a stop. -/
inductive Extra where
  | unseen
  | tired
  deriving DecidableEq

instance : Actor Extra Unit Event where
  update c _ := pure (decide (c = .tired))
  render
    | .unseen => Act.fail .noCostumes
    | .tired => pure ()

section Extras

variable {g : Game Extra Unit Screen} {d : Duration}

theorem turns_extra {c : Extra} (hc : g.children = [c]) :
    g.turns Event = ⟨.ok (decide (c = .tired)), (⟨g.data, g.ticks⟩, g.world), []⟩ := by
  rw [turns, hc]
  cases c <;> rfl

theorem render_extra {c : Extra} (hc : g.children = [c]) :
    ((render : Act Event GameError (Game Extra Unit Screen) Unit) g).result =
      if c = .unseen then .error (.error (.render .noCostumes)) else .ok () := by
  rcases hclear : (Surface.clear (g.scene.extent Event) g.surface : Screen × List Event) with
    ⟨s, first⟩
  rw [render_apply hclear (by rw [hc])]
  cases c <;> rfl

theorem tick_of_unseen (hc : g.children = [.unseen]) (hr : g.hasRoom = true) :
    let o := (tick : Act Event GameError (Game Extra Unit Screen) Unit) g
    o.result = .error (.error (.render .noCostumes)) ∧ Played g o.state := by
  obtain ⟨l, -, hu⟩ := update_eq_ok (ε := GameError) (turns_extra hc) hr
  have hplayed : Played g (g.counted (⟨g.data, g.ticks⟩, g.world)) := ⟨_, _, _, _, rfl⟩
  rw [tick, Act.bind_apply, hu]
  exact ⟨render_extra hc, hplayed.trans (render_played _)⟩

theorem tick_of_tired (hc : g.children = [.tired]) (hr : g.hasRoom = true)
    (hrun : g.isRunning = true) :
    let o := (tick : Act Event GameError (Game Extra Unit Screen) Unit) g
    o.result = .ok () ∧ o.state.timer = none := by
  obtain ⟨l, -, hu⟩ := update_eq_ok (ε := GameError) (turns_extra hc) hr
  rw [grantsStop, hrun] at hu
  rw [tick, Act.bind_apply, hu]
  exact ⟨render_extra hc, rfl⟩

/-- A running game that hosts can meet, with a timer that has reported `n` periods. -/
structure Busy (children : List Extra) (n ticks : Nat) (g : Game Extra Unit Screen) : Prop where
  reachable : Reachable Event { tickRate := 1000000000, maxCatchUp := 4294967295 } g
  running : g.isRunning = true
  children : g.children = children
  ticks : g.ticks = ticks
  timer : ∃ m, g.timer = some m ∧ m.Rapid n

namespace Busy

variable {children : List Extra} {n ticks : Nat}

theorem hasRoom (h : Busy children n ticks g) (ht : ticks + 1 < 2 ^ 64) : g.hasRoom = true := by
  rw [Game.hasRoom, h.ticks]
  exact decide_eq_true ht

/-- A child that cannot be drawn makes every call report all of its periods after one tick. -/
theorem next (h : Busy [.unseen] n ticks g) (hpos : 0 < d.nanos) (hd : d.nanos ≤ 4294967295)
    (hn : n + d.nanos < 2 ^ 64) (ht : ticks + 1 < 2 ^ 64) :
    ∃ g', Busy [.unseen] (n + d.nanos) (ticks + 1) g' := by
  obtain ⟨m, hm, hrapid⟩ := h.timer
  have hroom := (hrapid.hasRoom_iff hd).2 hn
  obtain ⟨hresult, hplayed⟩ :=
    tick_of_unseen (g := { g with timer := some (m.fed d) }) h.children (h.hasRoom ht)
  have hdue : 0 < m.due d := by rw [hrapid.due_eq hd]; exact hpos
  obtain ⟨hfailed, hstate⟩ := advance_of_failed_tick hm h.running hroom hdue hresult
  have hticks := tick_ticks (ν := Event) (g := { g with timer := some (m.fed d) })
    (by rw [Outcome.faulted, hresult])
  rw [← hstate] at hplayed hticks
  have hf : ((Command.advance d : Command Extra Unit Screen Event).perform g).faulted = false := by
    rw [Command.perform, Act.map_faulted, Outcome.faulted, hfailed]
  have hreachable := h.reachable.step (.advance d) hf
  exact ⟨_, hreachable, hplayed.isRunning_eq.trans h.running,
    hplayed.passed.children_eq.trans h.children, hticks.trans (congrArg (· + 1) h.ticks), m.fed d,
    congrArg Control.timer hplayed.control_eq, hrapid.fed hd hroom⟩

theorem after_advances (h : Busy [.unseen] n ticks g) (hpos : 0 < d.nanos)
    (hd : d.nanos ≤ 4294967295) (k : Nat) (hn : n + k * d.nanos < 2 ^ 64)
    (ht : ticks + k < 2 ^ 64) : ∃ g', Busy [.unseen] (n + k * d.nanos) (ticks + k) g' := by
  induction k with
  | zero => exact ⟨g, by simpa using h⟩
  | succ k ih =>
    rw [Nat.succ_mul, ← Nat.add_assoc] at hn ⊢
    obtain ⟨g', h'⟩ := ih (by omega) (by omega)
    exact h'.next hpos hd hn ht

theorem replace (h : Busy [.unseen] n ticks g) : ∃ g', Busy [.tired] n ticks g' := by
  refine ⟨_, (h.reachable.step (.remove 0) rfl).step (.add .tired) rfl, h.running, ?_, h.ticks,
    h.timer⟩
  change g.children.eraseIdx 0 ++ [Extra.tired] = [.tired]
  rw [h.children]
  rfl

/-- The first slice stops the game, and the second one finds no timer. -/
theorem advanceAll_eq (h : Busy [.tired] n ticks g) (hn : n + 1 < 2 ^ 64)
    (ht : ticks + 1 < 2 ^ 64) :
    ((advanceAll [.ofNanos 1, .ofNanos 1] : Act Event GameError _ Nat) g).result = .ok 1 := by
  obtain ⟨m, hm, hrapid⟩ := h.timer
  have hd : (Duration.ofNanos 1).nanos = 1 := rfl
  have hroom := (hrapid.hasRoom_iff (d := .ofNanos 1) (by decide)).2 hn
  have hdue := hrapid.due_eq (d := .ofNanos 1) (by decide)
  obtain ⟨hresult, htimer⟩ := tick_of_tired (g := { g with timer := some (m.fed (.ofNanos 1)) })
    h.children (h.hasRoom ht) h.running
  have hfirst : ((advance (.ofNanos 1) : Act Event GameError _ Nat) g).result = .ok 1 ∧
      ((advance (.ofNanos 1) : Act Event GameError _ Nat) g).state.timer = none := by
    rw [advance_apply hm, if_pos hroom, hdue, hd, ticksWhileRunning_succ (by exact h.running),
      Act.bind_apply, hresult]
    exact ⟨rfl, htimer⟩
  rw [advanceAll, Act.bind_apply_of_result hfirst.1, Outcome.after_result, Act.map_apply,
    advanceAll_of_no_timer _ hfirst.2]
  rfl

end Busy

def debut : Game Extra Unit Screen where
  surface := { width := 4, height := 3 }
  tickRate := 1000000000
  maxCatchUp := 4294967295
  data := ({} : Blackboard).set Blackboard.firstCycle (.bool true)
  world := ()
  rate_pos := by decide

theorem debut_busy :
    Busy [.unseen] 0 1
      (play debut ([.start, .add .unseen] : List (Command Extra Unit Screen Event))) := by
  have hcreated : ((create debut.surface () { tickRate := 1000000000, maxCatchUp := 4294967295 } :
      Act Event GameError Unit (Game Extra Unit Screen)) ()).result = .ok debut := rfl
  have htimer : (play debut ([.start, .add .unseen] :
      List (Command Extra Unit Screen Event))).timer.map (fun m =>
        (m.period.nanos, m.pending.nanos, m.cap.toNat, m.fired)) = some (1, 0, 4294967295, 0) := by
    decide +kernel
  obtain ⟨m, hm, hfields⟩ := Option.map_eq_some_iff.1 htimer
  simp only [Prod.mk.injEq] at hfields
  obtain ⟨hperiod, hpending, hcap, hfired⟩ := hfields
  exact ⟨(Reachable.created hcreated).play _ (by decide +kernel), by decide +kernel,
    by decide +kernel, by decide +kernel, m, hm, hperiod, hpending, hcap, hfired⟩

/-- A child that cannot be drawn lets the timer report nearly as many periods as it can count, with
few ticks. Then a child comes that asks for a stop: time that passes in two slices reaches only the
first of two ticks, but all at once it does not fit. -/
theorem slices_fit_where_whole_overflows :
    ∃ (g : Game Extra Unit Screen) (m : Metronome),
      Reachable Event { tickRate := 1000000000, maxCatchUp := 4294967295 } g ∧
      g.isRunning = true ∧ g.timer = some m ∧ m.pending.nanos + 2 ≤ maxNanos ∧
      (m.pending.nanos + 2) / m.period.nanos ≤ m.cap.toNat ∧
      ((advanceAll [.ofNanos 1, .ofNanos 1] : Act Event GameError _ Nat) g).result = .ok 1 ∧
      ((advance (.ofNanos 2) : Act Event GameError _ Nat) g).result =
        .error (.fault .addOverflow) := by
  obtain ⟨g₁, h₁⟩ := debut_busy.after_advances (d := .ofNanos 4294967295) (by decide) (by decide)
    4294967296 (by decide) (by decide)
  obtain ⟨g₂, h₂⟩ := h₁.next (d := .ofNanos 4294967294) (by decide) (by decide) (by decide)
    (by decide)
  obtain ⟨g, h⟩ := h₂.replace
  obtain ⟨m, hm, hrapid⟩ := h.timer
  have hfull : ¬m.hasRoom (.ofNanos 2) = true :=
    mt (hrapid.hasRoom_iff (by decide)).1 (by decide)
  refine ⟨g, m, h.reachable, h.running, hm, ?_, ?_, h.advanceAll_eq (by decide) (by decide), ?_⟩
  · rw [hrapid.pending]
    decide
  · rw [hrapid.pending, hrapid.period, hrapid.cap]
    decide
  · rw [advance_apply hm, if_neg hfull]

end Extras

end Game

end Stagecraft
