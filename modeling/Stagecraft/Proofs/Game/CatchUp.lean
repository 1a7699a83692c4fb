import Stagecraft.Proofs.Game.Enactment

/-!
How a running game catches up with the time that has passed. The ticks of an `advance` are those of
a host that calls `tick` by itself, once for every period that is due, and leaves off when one fails
or when the game runs no more (`ticksWhileRunning_repeats`). Main statement: `advance_caught_up`
says of these ticks which one asks for a stop or fails, and what they leave of the game.
-/

set_option autoImplicit false

namespace Stagecraft.Game

variable {κ W σ ν : Type} [Actor κ W ν] [Surface σ ν]

/-- Ticks that nothing cuts short, by which a game comes from `g` to `g'`; `l` is what was said. -/
structure Stretch (g : Game κ W σ) (l : List (Entry ν)) (ran : Nat) (ps : List (Pass κ W σ ν))
    (g' : Game κ W σ) : Prop where
  passes : Consists g l ps g'.scene
  children : g'.children = g.children
  ticks : g'.ticks = g.ticks + ran

namespace Stretch

variable {g g' g'' : Game κ W σ} {l l' : List (Entry ν)} {ran ran' : Nat}
  {ps ps' : List (Pass κ W σ ν)}

theorem none : Stretch g ([] : List (Entry ν)) 0 [] g := ⟨.nil rfl, rfl, rfl⟩

theorem append (h : Stretch g l ran ps g') (h' : Stretch g' l' ran' ps' g'') :
    Stretch g (l ++ l') (ran + ran') (ps ++ ps') g'' :=
  ⟨h.passes.append h.children rfl h'.passes, h'.children.trans h.children,
    by rw [h'.ticks, h.ticks, Nat.add_assoc]⟩

end Stretch

/-- A render pass that ends at the first child which cannot be drawn, and this is why it cannot.
Those before it are drawn, and nobody after it is called. -/
def Pass.FailsAt (r : Pass κ W σ ν) (children : List κ) (cause : RenderError) : Prop :=
  ∃ (earlier : List κ) (child : κ) (later : List κ) (p : W × σ) (noted : List ν)
      (said : List (Entry ν)),
    children = earlier ++ child :: later ∧
    r.deed = .render (r.found.extent ν) (earlier ++ [child]) (some cause) ∧
    Draws (r.found.world, (Surface.clear (r.found.extent ν) r.found.surface : σ × List ν).1)
      earlier earlier noted (.ok ()) p ∧
    Actor.render child p = ⟨.error (.error cause), (r.left.world, r.left.surface), said⟩

theorem Draws.split_of_error {p q : W × σ} {children called : List κ} {noted : List ν}
    {last : Except (Halt RenderError) Unit} (h : Draws p children called noted last q)
    {x : Halt RenderError} (hx : last = .error x) :
    ∃ (earlier : List κ) (child : κ) (later : List κ) (q' : W × σ) (noted' : List ν)
        (said : List (Entry ν)),
      children = earlier ++ child :: later ∧ called = earlier ++ [child] ∧
        Draws p earlier earlier noted' (.ok ()) q' ∧ Actor.render child q' = ⟨.error x, q, said⟩ := by
  induction h with
  | done => cases hx
  | @drawn _ _ _ c _ _ _ _ _ h _ ih =>
    obtain ⟨earlier, child, later, q', noted', said, hall, hcalled, hdrawn, hfails⟩ := ih hx
    exact ⟨c :: earlier, child, later, q', _, said, by rw [hall]; rfl, by rw [hcalled]; rfl,
      .drawn h hdrawn, hfails⟩
  | @failed _ _ c rest said _ h =>
    cases hx
    exact ⟨[], c, rest, _, [], said, rfl, rfl, .done, h⟩

theorem Pass.Made.failsAt {children : List κ} {r : Pass κ W σ ν} (h : r.Made children)
    {e : GameError} (he : r.result = .error (.error e)) :
    ∃ cause, e = .render cause ∧ r.FailsAt children cause := by
  cases h with
  | update => cases he
  | @render _ _ _ _ _ failure _ hc hd =>
    cases failure with
    | none => cases he
    | some cause =>
      cases he
      obtain ⟨earlier, child, later, p, noted, said, hall, rfl, hdrawn, hfails⟩ :=
        hd.split_of_error rfl
      refine ⟨cause, rfl, earlier, child, later, p, noted, said, hall, rfl, ?_, hfails⟩
      simpa only [hc] using hdrawn

namespace Call

def ofTick (g : Game κ W σ) : Call κ W σ ν := ⟨.tick, g, Command.tick.perform g⟩

/-- The call made these two passes, and ended as the second one did. -/
structure Makes (k : Call κ W σ ν) (u r : Pass κ W σ ν) : Prop where
  kinds : [u, r].map Pass.kind = Pass.Kind.tick
  stretch : Stretch k.before k.outcome.said 1 [u, r] k.after
  result : k.outcome.result = r.result.map fun _ => .done

/-- The call was a tick; `asked` says whether a child asked for a stop in it. -/
def Asks (k : Call κ W σ ν) (asked : Bool) : Prop := ∃ u r, k.Makes u r ∧ u.stopAsked = asked

def Uneventful (k : Call κ W σ ν) : Prop := k.succeeds = true ∧ k.Asks false

theorem ofTick_makes {g : Game κ W σ} (hg : g.isRunning = true)
    (hf : (ofTick (ν := ν) g).outcome.faulted = false) :
    ∃ u r, (ofTick (ν := ν) g).Makes u r ∧
      (ofTick (ν := ν) g).after.control =
        if u.stopAsked then g.control.halted else g.control := by
  have hgrants : g.grantsStop = true := by rw [grantsStop, hg, Bool.true_or]
  have hf' : ((tick : Act ν GameError (Game κ W σ) Unit) g).faulted = false := by
    rwa [← Act.map_faulted]
  obtain ⟨u, r, hkinds, hpasses, hres, hctl⟩ := tick_spec hf'
  rw [hgrants, Bool.and_true] at hctl
  exact ⟨u, r, ⟨hkinds, ⟨hpasses, (tick_passed (ν := ν) g).children_eq, tick_ticks hf'⟩,
    congrArg (Except.map fun _ => Answer.done) hres⟩, hctl⟩

omit [Actor κ W ν] [Surface σ ν] in
theorem running_iff {g : Game κ W σ} (hg : g.isRunning = true) {k : Call κ W σ ν}
    {u : Pass κ W σ ν} (h : k.after.control = if u.stopAsked then g.control.halted else g.control) :
    k.after.isRunning = true ↔ u.stopAsked = false := by
  cases hu : u.stopAsked with
  | false =>
    rw [hu, if_neg (by decide)] at h
    simp [isRunning_of_phase (congrArg Control.phase h) hg]
  | true =>
    rw [hu, if_pos rfl] at h
    simp [isRunning_of_halted h]

omit [Actor κ W ν] [Surface σ ν] in
theorem faulted_of_succeeds {k : Call κ W σ ν} (h : k.succeeds = true) :
    k.outcome.faulted = false := by
  obtain ⟨x, hx⟩ := Outcome.result_of_succeeded h
  rw [Outcome.faulted, hx]

/-- A tick after which the game runs no more is one in which a child asked for that. -/
theorem ofTick_stops {g : Game κ W σ} (hg : g.isRunning = true)
    (hk : (ofTick (ν := ν) g).succeeds = true)
    (hr : (ofTick (ν := ν) g).after.isRunning = false) :
    ∃ u r, (ofTick (ν := ν) g).Makes u r ∧ u.stopAsked = true ∧
      (ofTick (ν := ν) g).after.control = g.control.halted := by
  obtain ⟨u, r, hmakes, hctl⟩ := ofTick_makes hg (faulted_of_succeeds hk)
  have hu : u.stopAsked = true := by
    rw [← Bool.not_eq_false, ← running_iff hg hctl, hr]
    decide
  rw [hu, if_pos rfl] at hctl
  exact ⟨u, r, hmakes, hu, hctl⟩

end Call

open Call

/-- Ticks that succeed and leave the game running, one after the other. -/
inductive GoesOn : Game κ W σ → List (Call κ W σ ν) → Game κ W σ → Prop
  | nil {g : Game κ W σ} : GoesOn g [] g
  | cons {g g' : Game κ W σ} {calls : List (Call κ W σ ν)}
      (hk : (ofTick (ν := ν) g).succeeds = true) (hr : (ofTick (ν := ν) g).after.isRunning = true)
      (next : GoesOn (ofTick (ν := ν) g).after calls g') : GoesOn g (ofTick g :: calls) g'

theorem GoesOn.stretch {g g' : Game κ W σ} {calls : List (Call κ W σ ν)} (h : GoesOn g calls g')
    (hg : g.isRunning = true) :
    g'.control = g.control ∧ (∀ k ∈ calls, k.Uneventful) ∧
      ∃ ps, Stretch g (calls.flatMap (·.outcome.said)) calls.length ps g' := by
  induction h with
  | nil => exact ⟨rfl, List.forall_mem_nil _, [], .none⟩
  | @cons g _ calls hk hr _ ih =>
    obtain ⟨u, r, hmakes, hctl⟩ := ofTick_makes (ν := ν) hg (faulted_of_succeeds hk)
    have hu := (running_iff hg hctl).1 hr
    rw [hu, if_neg (by decide)] at hctl
    obtain ⟨hctl', hquiet, ps, hst⟩ := ih hr
    refine ⟨hctl'.trans hctl, ?_, [u, r] ++ ps, ?_⟩
    · intro k hmem
      rcases List.mem_cons.1 hmem with rfl | hmem
      · exact ⟨hk, u, r, hmakes, hu⟩
      · exact hquiet k hmem
    · rw [List.flatMap_cons, List.length_cons, Nat.add_comm]
      exact hmakes.stretch.append hst

/-- The calls of a host that ticks a game up to `n` times, with the game that they lead to and what
the host can tell of them: how many ticks there were, or why the last one failed. -/
inductive Repeats (n : Nat) (g : Game κ W σ) :
    List (Call κ W σ ν) → Game κ W σ → Except (Halt GameError) Nat → Prop
  | spent {g' : Game κ W σ} {calls : List (Call κ W σ ν)} (h : GoesOn g calls g')
      (hn : calls.length = n) : Repeats n g calls g' (.ok n)
  | stopped {g' : Game κ W σ} {past : List (Call κ W σ ν)} (h : GoesOn g past g')
      (hn : past.length < n) (hk : (ofTick (ν := ν) g').succeeds = true)
      (hr : (ofTick (ν := ν) g').after.isRunning = false) :
      Repeats n g (past ++ [ofTick g']) (ofTick (ν := ν) g').after (.ok (past.length + 1))
  | failed {g' : Game κ W σ} {past : List (Call κ W σ ν)} (h : GoesOn g past g')
      (hn : past.length < n) {x : Halt GameError}
      (hx : (ofTick (ν := ν) g').outcome.result = .error x) :
      Repeats n g (past ++ [ofTick g']) (ofTick (ν := ν) g').after (.error x)

theorem Repeats.cons {n : Nat} {g g' : Game κ W σ} {calls : List (Call κ W σ ν)}
    {result : Except (Halt GameError) Nat} (hk : (ofTick (ν := ν) g).succeeds = true)
    (hr : (ofTick (ν := ν) g).after.isRunning = true)
    (h : Repeats n (ofTick (ν := ν) g).after calls g' result) :
    Repeats (n + 1) g (ofTick g :: calls) g' (result.map (· + 1)) := by
  cases h with
  | spent h hn => exact .spent (.cons hk hr h) (congrArg (· + 1) hn)
  | stopped h hn hk' hr' => exact .stopped (.cons hk hr h) (Nat.succ_lt_succ hn) hk' hr'
  | failed h hn hx => exact .failed (.cons hk hr h) (Nat.succ_lt_succ hn) hx

/-- A game makes the ticks that a host would make, whatever comes of them. -/
theorem ticksWhileRunning_repeats (n : Nat) {g : Game κ W σ} (hg : g.isRunning = true) :
    let o := (ticksWhileRunning n : Act ν GameError (Game κ W σ) Nat) g
    ∃ calls, Repeats n g calls o.state o.result ∧
      o.said = calls.flatMap (·.outcome.said) := by
  induction n generalizing g with
  | zero => exact ⟨[], .spent .nil rfl, rfl⟩
  | succ n ih =>
    rw [ticksWhileRunning_succ hg, Act.bind_apply]
    cases hres : ((tick : Act ν GameError (Game κ W σ) Unit) g).result with
    | error x =>
      have hx : (ofTick (ν := ν) g).outcome.result = .error x := congrArg (Except.map _) hres
      exact ⟨[ofTick g], .failed .nil (Nat.succ_pos n) hx, (List.append_nil _).symm⟩
    | ok _ =>
      have hdone : (ofTick (ν := ν) g).outcome.result = .ok .done := congrArg (Except.map _) hres
      have hk : (ofTick (ν := ν) g).succeeds = true := by
        rw [Call.succeeds, Outcome.succeeded, hdone]
      cases hr : (ofTick (ν := ν) g).after.isRunning with
      | false =>
        have hrest : ticksWhileRunning (ν := ν) n (tick (ν := ν) g).state =
            ⟨.ok 0, (tick (ν := ν) g).state, []⟩ := ticksWhileRunning_of_not_running hr n
        simp only [Act.map_apply, hrest, Outcome.after]
        exact ⟨[ofTick g], .stopped .nil (Nat.succ_pos n) hk hr, rfl⟩
      | true =>
        obtain ⟨calls, hrep, hsaid⟩ := ih hr
        exact ⟨ofTick g :: calls, hrep.cons hk hr, congrArg ((tick (ν := ν) g).said ++ ·) hsaid⟩

/-- There were `n` ticks: all that were due, or as many as it took until a child asked for a
stop. -/
structure Returned (g : Game κ W σ) (due : Nat) (calls : List (Call κ W σ ν)) (now : Game κ W σ)
    (n : Nat) : Prop where
  length : calls.length = n
  ticks : now.ticks = g.ticks + n
  ends : n = due ∧ now.phase = .running ∧ (∀ k ∈ calls, k.Uneventful) ∨
    n ≤ due ∧ now.phase = .stopped ∧ now.timer = none ∧ ∃ past last, calls = past ++ [last] ∧
      (∀ k ∈ past, k.Uneventful) ∧ last.succeeds = true ∧ last.Asks true

/-- The ticks `past` were completed, and in the next one a child could not be drawn. -/
structure Failed (g : Game κ W σ) (due : Nat) (past : List (Call κ W σ ν)) (last : Call κ W σ ν)
    (now : Game κ W σ) (e : GameError) : Prop where
  within : past.length < due
  completed : ∀ k ∈ past, k.Uneventful
  ticks : now.ticks = g.ticks + past.length + 1
  ends : ∃ u r cause, last.Makes u r ∧ e = .render cause ∧ r.FailsAt g.children cause ∧
    (now.phase = .running ↔ u.stopAsked = false)

namespace Repeats

variable {due : Nat} {g now : Game κ W σ} {calls : List (Call κ W σ ν)}

theorem returned {n : Nat} (h : Repeats due g calls now (.ok n)) (hg : g.isRunning = true) :
    Returned g due calls now n := by
  cases h with
  | spent h hn =>
    obtain ⟨hctl, hquiet, _, hst⟩ := h.stretch hg
    have hrunning : now.isRunning = true := isRunning_of_phase (congrArg Control.phase hctl) hg
    exact ⟨hn, hn ▸ hst.ticks, .inl ⟨rfl, of_decide_eq_true hrunning, hquiet⟩⟩
  | @stopped g' past h hn hk hr =>
    obtain ⟨hctl, hquiet, _, hst⟩ := h.stretch hg
    have hg' : g'.isRunning = true := isRunning_of_phase (congrArg Control.phase hctl) hg
    obtain ⟨u, r, hmakes, hu, hlast⟩ := ofTick_stops hg' hk hr
    refine ⟨by simp, ?_, .inr ⟨hn, congrArg Control.phase hlast, congrArg Control.timer hlast, past,
      _, rfl, hquiet, hk, u, r, hmakes, hu⟩⟩
    rw [hmakes.stretch.ticks, ← Nat.add_assoc]
    exact congrArg (· + 1) hst.ticks

theorem exists_failed {e : GameError} (h : Repeats due g calls now (.error (.error e)))
    (hg : g.isRunning = true) :
    ∃ past last, calls = past ++ [last] ∧ Failed g due past last now e := by
  cases h with
  | @failed g' past h hn _ hx =>
    obtain ⟨hctl, hquiet, _, hst⟩ := h.stretch hg
    have hg' : g'.isRunning = true := isRunning_of_phase (congrArg Control.phase hctl) hg
    obtain ⟨u, r, hmakes, hlast⟩ := ofTick_makes (ν := ν) hg' (by rw [Outcome.faulted, hx])
    have hmade : r.Made g.children :=
      hst.children ▸ hmakes.stretch.passes.enacts.of_cons.2.2.of_cons.2.1
    have hres : r.result = .error (.error e) := by
      rw [hmakes.result] at hx
      cases hr : r.result <;> rw [hr] at hx <;> cases hx
      rfl
    obtain ⟨cause, rfl, hfails⟩ := hmade.failsAt hres
    refine ⟨past, _, rfl, hn, hquiet, ?_, u, r, cause, hmakes, rfl, hfails, ?_⟩
    · rw [hmakes.stretch.ticks]
      exact congrArg (· + 1) hst.ticks
    · rw [← running_iff hg' hlast, isRunning, decide_eq_true_iff]

end Repeats

omit [Actor κ W ν] [Surface σ ν] in
theorem fed_eq_retime {g : Game κ W σ} {m : Metronome} (hm : g.timer = some m) (d : Duration) :
    { g with timer := some (m.fed d) } = g.retime fun _ => m.fed d := by
  rw [retime, hm, Option.map_some]

/-- The timer is fed first, but no tick looks at it. -/
theorem advance_of_due {g : Game κ W σ} {m : Metronome} {d : Duration} {due : Nat}
    (hm : g.timer = some m)
    (hdue : ((Metronome.advance d : Act ν GameError Metronome Nat) m).result = .ok due) :
    (advance d : Act ν GameError (Game κ W σ) Nat) g =
      ((ticksWhileRunning due g).mapState (retime fun _ => m.fed d)).after (m.dropNotice ν d) := by
  rw [advance_apply hm, fed_eq_retime hm, ← ticksWhileRunning_retime]
  rw [Metronome.advance_apply] at hdue
  cases hr : m.hasRoom d <;> rw [hr] at hdue <;> cases hdue
  rfl

/-- What comes of the time `d` in a running game `g`, if its timer `m` finds that many periods
due. -/
structure CaughtUp (g : Game κ W σ) (m : Metronome) (d : Duration) (due : Nat)
    (calls : List (Call κ W σ ν)) (o : Outcome ν GameError (Game κ W σ) Nat) : Prop where
  /-- All is as if a host had called the ticks, except that the timer was fed. -/
  repeats : ∃ now, Repeats due g calls now o.result ∧ o.state = now.retime fun _ => m.fed d
  said : o.said = m.dropNotice ν d ++ calls.flatMap (·.outcome.said)
  returned : ∀ n, o.result = .ok n → Returned g due calls o.state n
  failed : ∀ e, o.result = .error (.error e) →
    ∃ past last, calls = past ++ [last] ∧ Failed g due past last o.state e

theorem advance_caught_up {c : Config} {g : Game κ W σ} (h : Reachable ν c g)
    (hg : g.phase = .running) :
    ∃ m, g.timer = some m ∧ ∀ (d : Duration) (due : Nat),
      ((Metronome.advance d : Act ν GameError Metronome Nat) m).result = .ok due →
      ∃ calls, CaughtUp g m d due calls ((advance d : Act ν GameError (Game κ W σ) Nat) g) := by
  obtain ⟨m, hm⟩ := Option.isSome_iff_exists.1 (h.settled.timer.2 hg)
  refine ⟨m, hm, fun d due hdue => ?_⟩
  have hrunning : g.isRunning = true := decide_eq_true hg
  obtain ⟨calls, hrepeats, hsaid⟩ := ticksWhileRunning_repeats (ν := ν) due hrunning
  rw [advance_of_due hm hdue]
  refine ⟨calls, ⟨_, hrepeats, rfl⟩, congrArg (m.dropNotice ν d ++ ·) hsaid, ?_, ?_⟩
  · intro n hn
    have hn' : (ticksWhileRunning (ν := ν) due g).result = .ok n := hn
    rw [hn'] at hrepeats
    obtain ⟨hlength, hticks, hends⟩ := hrepeats.returned hrunning
    refine ⟨hlength, hticks, hends.imp_right ?_⟩
    rintro ⟨hle, hphase, htimer, hlast⟩
    exact ⟨hle, hphase, congrArg (Option.map _) htimer, hlast⟩
  · intro e he
    have he' : (ticksWhileRunning (ν := ν) due g).result = .error (.error e) := he
    rw [he'] at hrepeats
    obtain ⟨past, last, hcalls, hfailed⟩ := hrepeats.exists_failed hrunning
    exact ⟨past, last, hcalls, hfailed.within, hfailed.completed, hfailed.ticks, hfailed.ends⟩

/-- Five ticks are due each time. First the second one of them fails, and then a child asks for a
stop in the third one. -/
theorem advance_caught_up_rehearsal :
    let d := Duration.ofNanos 90000000
    let g := rehearse [.start, .add ⟨0⟩, .gesture, .gesture]
    let g' := rehearse [.start, .add ⟨0⟩, .gesture, .gesture, .advance d]
    let o := advance (ν := Event) d g
    let o' := advance (ν := Event) d g'
    (o.succeeded = false ∧ o.faulted = false ∧ o.state.ticks = g.ticks + 2 ∧
      ∃ m calls, CaughtUp g m d 5 calls o) ∧
    o'.result.toOption = some 3 ∧ ∃ m calls, CaughtUp g' m d 5 calls o' := by
  intro d g g' o o'
  have hg : Reachable Event { needsGesture := true } g := rehearse_reachable (by decide +kernel)
  have hg' : Reachable Event { needsGesture := true } g' := rehearse_reachable (by decide +kernel)
  obtain ⟨m, hm, hall⟩ := advance_caught_up hg (by decide +kernel)
  obtain ⟨m', hm', hall'⟩ := advance_caught_up hg' (by decide +kernel)
  let due (m : Metronome) := (Metronome.advance (ν := Event) (ε := GameError) d m).result.toOption
  have hdue : g.timer.map due = some (some 5) := by decide +kernel
  have hdue' : g'.timer.map due = some (some 5) := by decide +kernel
  rw [hm] at hdue
  rw [hm'] at hdue'
  refine ⟨⟨by decide +kernel, by decide +kernel, by decide +kernel, m, ?_⟩, by decide +kernel, m', ?_⟩
  · exact hall d 5 (Outcome.result_eq_ok (Option.some.inj hdue))
  · exact hall' d 5 (Outcome.result_eq_ok (Option.some.inj hdue'))

end Stagecraft.Game
