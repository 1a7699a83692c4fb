import Stagecraft.Proofs.Game.Journal
import Stagecraft.Proofs.Troupe.Hits

/-!
Games of bouncers and sprites. Main statement: whatever calls start such a game and let time pass,
the blackboard holds the number of all hits so far, the game goes on as long as there are at most
three, and the pass in which they come to four is the last one (`play_bounces`).
-/

set_option autoImplicit false

namespace Stagecraft.Game

variable {κ W σ ν : Type}

/-- The calls of an update pass are those that its actors are asked to make. -/
theorem Turns.updateAll [Actor κ W ν] {stop : Bool} {p q : Moment × W} {children : List κ}
    {told : List Nat} {noted : List ν} {last : Except (Halt Empty) Bool}
    (h : Turns stop p children told noted last q) :
    ∃ l, (Actor.updateAll children stop : Act ν Empty (Moment × W) Bool) p = ⟨last, q, l⟩ := by
  induction h with
  | done => exact ⟨[], rfl⟩
  | @turn _ _ _ _ _ _ _ _ said _ _ h _ ih =>
    obtain ⟨l, hl⟩ := ih
    refine ⟨said ++ l, ?_⟩
    rw [Actor.updateAll, Act.bind_apply, h]
    simp only [hl, Outcome.after]
  | @broken _ _ _ _ _ said _ h =>
    refine ⟨said, ?_⟩
    rw [Actor.updateAll, Act.bind_apply, h]

/-- All steps of bouncers beyond a wall in the first `k` passes from here. -/
def hits (g : Game MemberId Troupe σ) (k : Nat) : Nat := g.world.tracks.tally g.children k

def bouncers (g : Game MemberId Troupe σ) : Nat := g.world.tracks.bouncers g.children

/-- What `k` passes leave of a game, and of the children in it. -/
structure Stands (g : Game MemberId Troupe σ) (k : Nat) (x : Scene Troupe σ) : Prop where
  counts : Bouncer.Counts x.data (g.hits k)
  tracks : x.world.tracks = g.world.tracks.toured g.children k
  acrobats : x.world.Acrobats g.children
  ticks : x.ticks = g.ticks + k

variable {g : Game MemberId Troupe σ} {k : Nat}

theorem Stands.opened {x : Scene Troupe σ} (h : Stands g k x) : Stands g k x.opened :=
  ⟨h.counts.of_ne (by decide), h.tracks, h.acrobats, h.ticks⟩

variable [Surface σ Event]

theorem Draws.world_eq {p q : Troupe × σ} {children called : List MemberId} {noted : List Event}
    {last : Except (Halt RenderError) Unit} (h : Draws p children called noted last q) :
    q.1 = p.1 := by
  have hrender {i : MemberId} {p q : Troupe × σ} {x : Except (Halt RenderError) Unit}
      {said : List (Entry Event)}
      (h : (Actor.render i : Act Event RenderError (Troupe × σ) Unit) p = ⟨x, q, said⟩) :
      q.1 = p.1 := by
    have := Troupe.render_world i p
    rwa [h] at this
  induction h with
  | done => rfl
  | drawn h _ ih => exact ih.trans (hrender h)
  | failed h => exact hrender h

/-- An update pass adds its hits, and asks for a stop where they come to four. -/
theorem Stands.update {p : Pass MemberId Troupe σ Event} (h : Stands g k p.found)
    (hle : g.hits k ≤ 3) (hp : p.Made g.children) (hk : p.kind = .update) :
    Stands g (k + 1) p.left ∧ p.stopAsked = decide (4 ≤ g.hits (k + 1)) := by
  cases hp with
  | render => cases hk
  | @update x told noted asked q hturns =>
    obtain ⟨l, hl⟩ := hturns.updateAll
    have htracks : x.world.tracks = g.world.tracks.toured g.children k := h.tracks
    have hs := Troupe.updateAll_struck (m := ⟨x.data, x.ticks⟩) g.children h.acrobats h.counts false
    rw [hl, htracks] at hs
    cases hs with
    | full _ hf => cases hf
    | counted hd ht hr =>
      refine ⟨⟨hd, ht, hr.acrobats h.acrobats, congrArg (· + 1) h.ticks⟩, ?_⟩
      exact (Bool.false_or _).trans (Troupe.asks_of_le hle _)

theorem Stands.render {p : Pass MemberId Troupe σ Event} (h : Stands g k p.found)
    (hp : p.Made g.children) (hk : p.kind = .render) : Stands g k p.left := by
  cases hp with
  | update => cases hk
  | render hclear hd =>
    have hworld := hd.world_eq
    exact ⟨h.counts, hworld ▸ h.tracks, hworld ▸ h.acrobats, h.ticks⟩

/-- A game that `k` passes led to from the game `g`. -/
structure Tallied (g : Game MemberId Troupe σ) (k : Nat) (g' : Game MemberId Troupe σ) : Prop where
  children : g'.children = g.children
  stands : Stands g k g'.scene
  going : g'.phase ≠ .stopped → g.hits k ≤ 3
  stopped : g'.phase = .stopped → 4 ≤ g.hits k ∧ ∃ j, k = j + 1 ∧ g.hits j ≤ 3

omit [Surface σ Event] in
theorem phase_of_asked {g' g'' : Game MemberId Troupe σ} {asked : Bool}
    (hgoing : g'.phase ≠ .stopped)
    (hctl : g''.control = if asked then g'.control.halted else g'.control) :
    g''.phase = .stopped ↔ asked = true := by
  have hp := congrArg Control.phase hctl
  cases asked with
  | true => exact iff_of_true hp rfl
  | false => exact iff_of_false (fun he => hgoing (hp.symm.trans he)) (by decide)

/-- One more tick: the passes `u` and `r` lead to the scene `y`, and to a game that is stopped if
`u` asks for it. -/
theorem Tallied.next {g' g'' : Game MemberId Troupe σ} {u r : Pass MemberId Troupe σ Event}
    {y : Scene Troupe σ} {l : List (Entry Event)} (h : Tallied g k g')
    (hgoing : g'.phase ≠ .stopped)
    (hkinds : [u, r].map Pass.kind = Pass.Kind.tick) (hpasses : Consists g' l [u, r] y)
    (hscene : g''.scene = y ∨ g''.scene = y.opened) (hchildren : g''.children = g'.children)
    (hphase : g''.phase = .stopped ↔ u.stopAsked = true) : Tallied g (k + 1) g'' := by
  obtain ⟨hu, hr⟩ : u.kind = .update ∧ r.kind = .render := by
    simpa [Pass.Kind.tick] using hkinds
  obtain ⟨hfound, hmade, hrest⟩ := hpasses.enacts.of_cons
  obtain ⟨hleft, hmade', hend⟩ := hrest.of_cons
  have hy := hend.of_nil
  rw [h.children] at hmade hmade'
  have hle := h.going hgoing
  obtain ⟨hstands, hasked⟩ := Stands.update (hfound ▸ h.stands) hle hmade hu
  have hrender := Stands.render (hleft ▸ hstands) hmade' hr
  rw [hy] at hrender
  have hiff : g''.phase = .stopped ↔ 4 ≤ g.hits (k + 1) := by
    rw [hphase, hasked, decide_eq_true_eq]
  refine ⟨hchildren.trans h.children, ?_, fun hp => ?_, fun hp => ?_⟩
  · rcases hscene with he | he <;> rw [he]
    · exact hrender
    · exact hrender.opened
  · have := mt hiff.2 hp
    omega
  · exact ⟨hiff.1 hp, k, rfl, hle⟩

/-- Where `start` and `gesture` make no first pass, they stop nothing. -/
theorem phase_of_not_arms {c : Command MemberId Troupe σ Event} {g' : Game MemberId Troupe σ}
    (hk : c = .start ∨ c = .gesture) (ha : c.arms g' = false) :
    (c.perform g').state.phase = .stopped ↔ g'.phase = .stopped := by
  rcases hk with rfl | rfl
  · rw [Command.perform, Act.map_state]
    by_cases hp : g'.phase = .created
    · cases ho : g'.overlay with
      | none => simp [Command.arms, hp, ho] at ha
      | some o => simp [start_of_overlay hp ho, hp]
    · rw [start_of_not_created hp]
  · have hp : g'.phase ≠ .waiting := by simpa [Command.arms] using ha
    rw [Command.perform, Act.map_state, gesture_of_not_waiting hp]

def Command.plays : Command MemberId Troupe σ Event → Bool
  | .start => true
  | .gesture => true
  | .advance _ => true
  | _ => false

section Calls

variable {g' : Game MemberId Troupe σ}

theorem tick_tallied (h : Tallied g k g') (hr : g'.isRunning = true)
    (hf : ((tick : Act Event GameError (Game MemberId Troupe σ) Unit) g').faulted = false) :
    Tallied g (k + 1) ((tick : Act Event GameError (Game MemberId Troupe σ) Unit) g').state := by
  have hgrants : g'.grantsStop = true := by rw [grantsStop, hr, Bool.true_or]
  have hgoing : g'.phase ≠ .stopped := by
    rw [of_decide_eq_true hr]
    decide
  obtain ⟨u, r, hkinds, hpasses, _, hctl⟩ := tick_spec hf
  rw [hgrants, Bool.and_true] at hctl
  refine h.next hgoing hkinds hpasses (.inl rfl) (tick_passed g').children_eq ?_
  exact phase_of_asked hgoing hctl

theorem ticksWhileRunning_tallied (n : Nat) (h : Tallied g k g')
    (hf : ((ticksWhileRunning n : Act Event GameError (Game MemberId Troupe σ) Nat) g').faulted =
      false) :
    ∃ k', Tallied g k'
      ((ticksWhileRunning n : Act Event GameError (Game MemberId Troupe σ) Nat) g').state := by
  induction n generalizing k g' with
  | zero => exact ⟨k, h⟩
  | succ n ih =>
    cases hr : g'.isRunning with
    | false =>
      rw [ticksWhileRunning_of_not_running hr]
      exact ⟨k, h⟩
    | true =>
      rw [ticksWhileRunning_succ hr] at hf ⊢
      obtain ⟨hfirst, hrest⟩ := Act.faulted_of_bind hf
      have ht := tick_tallied h hr hfirst
      rw [Act.bind_apply]
      cases hres : ((tick : Act Event GameError (Game MemberId Troupe σ) Unit) g').result with
      | error e => exact ⟨k + 1, ht⟩
      | ok _ =>
        have hlater := hrest () hres
        rw [Act.map_faulted] at hlater
        exact ih ht hlater

theorem advance_tallied (h : Tallied g k g') (d : Duration)
    (hf : ((advance d : Act Event GameError (Game MemberId Troupe σ) Nat) g').faulted = false) :
    ∃ k', Tallied g k'
      ((advance d : Act Event GameError (Game MemberId Troupe σ) Nat) g').state := by
  cases hm : g'.timer with
  | none =>
    rw [advance_of_no_timer hm]
    exact ⟨k, h⟩
  | some m =>
    have hfed : Tallied g k { g' with timer := some (m.fed d) } :=
      ⟨h.children, h.stands, h.going, h.stopped⟩
    rw [advance_apply hm] at hf ⊢
    cases hroom : m.hasRoom d with
    | false =>
      rw [hroom] at hf
      cases hf
    | true =>
      rw [hroom] at hf
      exact ticksWhileRunning_tallied (m.due d) hfed hf

theorem gate_tallied {c : Command MemberId Troupe σ Event} (hk : c = .start ∨ c = .gesture)
    (h : Tallied g k g') (hf : (c.perform g').faulted = false) :
    ∃ k', Tallied g k' (c.perform g').state := by
  cases ha : c.arms g' with
  | false =>
    obtain ⟨_, _, hscene, hback, _⟩ := perform_of_not_arms hk ha
    have hphase := phase_of_not_arms hk ha
    refine ⟨k, (congrArg Prod.fst hback).trans h.children, hscene ▸ h.stands, ?_, ?_⟩
    · exact fun hp => h.going (mt hphase.2 hp)
    · exact fun hp => h.stopped (hphase.1 hp)
  | true =>
    have hgoing := (perform_of_arms ha).2.1
    have hchildren : (c.perform g').state.children = g'.children := by
      rw [(perform_of_arms ha).1]
      exact congrArg Prod.fst (launch_backstage g')
    obtain ⟨u, r, y, hkinds, hpasses, _, harmed⟩ := perform_armed ha hf
    refine ⟨k + 1, ?_⟩
    cases harmed with
    | failed _ hs hctl =>
      exact h.next hgoing hkinds hpasses (.inl hs) hchildren (phase_of_asked hgoing hctl)
    | stopped _ hu hs hctl =>
      exact h.next hgoing hkinds hpasses (.inr hs) hchildren
        (iff_of_true (congrArg Control.phase hctl) hu)
    | started _ hu _ hs hctl =>
      refine h.next hgoing hkinds hpasses (.inr hs) hchildren ?_
      have hp : (c.perform g').state.phase = .running := congrArg Control.phase hctl
      simp [hu, hp]

theorem perform_tallied {c : Command MemberId Troupe σ Event} (hk : c.plays = true)
    (h : Tallied g k g') (hf : (c.perform g').faulted = false) :
    ∃ k', Tallied g k' (c.perform g').state := by
  cases c with
  | start => exact gate_tallied (.inl rfl) h hf
  | gesture => exact gate_tallied (.inr rfl) h hf
  | advance d =>
    rw [Command.perform, Act.map_faulted] at hf
    exact advance_tallied h d hf
  | _ => cases hk

theorem play_tallied (cs : List (Command MemberId Troupe σ Event))
    (hcs : cs.all Command.plays = true) (h : Tallied g k g')
    (hf : (history g' cs).all (!·.outcome.faulted) = true) :
    ∃ k', Tallied g k' (play g' cs) := by
  induction cs generalizing k g' with
  | nil => exact ⟨k, h⟩
  | cons c rest ih =>
    rw [List.all_cons, Bool.and_eq_true] at hcs
    rw [history, List.all_cons, Bool.and_eq_true, Bool.not_eq_true'] at hf
    obtain ⟨k', h'⟩ := perform_tallied hcs.1 h hf.1
    exact ih hcs.2 h' hf.2

/-- The next pass of a game that goes on faults at no turn, as far as hits can be counted. -/
theorem Tallied.steady (h : Tallied g k g') (hgoing : g'.phase ≠ .stopped)
    (hn : 3 + g.bouncers < 2 ^ 63) : g'.Steady Event := by
  refine ⟨?_, Troupe.renderAll_faulted _ _⟩
  have hacrobats : g'.world.Acrobats g'.children := h.children ▸ h.stands.acrobats
  have htracks : g'.world.tracks = g.world.tracks.toured g.children k := h.stands.tracks
  have hbouncers : g'.world.tracks.bouncers g'.children = g.bouncers := by
    rw [h.children, htracks, Tracks.bouncers_toured, bouncers]
  have hle := h.going hgoing
  have hmost := Tracks.pass_le g'.world.tracks g'.children
  have hturns := Troupe.updateAll_struck (m := ⟨g'.data, g'.ticks⟩) g'.children hacrobats
    h.stands.counts false
  exact hturns.faulted_of_lt (by omega)

end Calls

/-- What becomes of a game of bouncers and sprites in `k` passes. -/
structure Bounces (g : Game MemberId Troupe σ) (k : Nat) (g' : Game MemberId Troupe σ) : Prop where
  passes : g'.ticks = g.ticks + k
  absent : g.hits k = 0 → g'.data.get? "bounces" = none
  present : 0 < g.hits k →
    ∃ i : Int64, g'.data.get? "bounces" = some (.int i) ∧ i.toInt = g.hits k
  going : g'.phase ≠ .stopped → g.hits k ≤ 3
  stopped : g'.phase = .stopped →
    4 ≤ g.hits k ∧ g.hits k ≤ 3 + g.bouncers ∧ ∃ j, k = j + 1 ∧ g.hits j ≤ 3
  steady : g'.phase ≠ .stopped → 3 + g.bouncers < 2 ^ 63 → g'.Steady Event

/-- A game of bouncers and sprites, without hits at first, after any calls that start it and let
time pass: the blackboard holds the number of hits in all passes so far, and the game is stopped
exactly in the pass that brings the fourth one. -/
theorem play_bounces (hc : g.world.Acrobats g.children)
    (hd : g.data.get? "bounces" = none) (hp : g.phase ≠ .stopped)
    (cs : List (Command MemberId Troupe σ Event)) (hcs : cs.all Command.plays = true)
    (hf : (history g cs).all (!·.outcome.faulted) = true) :
    ∃ k, Bounces g k (play g cs) := by
  have hstart : Tallied g 0 g :=
    ⟨rfl, ⟨⟨fun _ => hd, nofun⟩, rfl, hc, rfl⟩, fun _ => Nat.zero_le 3, fun h => absurd h hp⟩
  obtain ⟨k, h⟩ := play_tallied cs hcs hstart hf
  refine ⟨k, h.stands.ticks, h.stands.counts.absent, h.stands.counts.present, h.going, ?_,
    h.steady⟩
  intro hstop
  obtain ⟨hfour, j, rfl, hj⟩ := h.stopped hstop
  have hlast := g.world.tracks.tally_succ_le g.children j
  exact ⟨hfour, Nat.le_trans hlast (Nat.add_le_add_right hj _), j, rfl, hj⟩

/-- Three bouncers that hit a wall in every pass and have nothing to wear. -/
def tumblers : Game MemberId Troupe Screen where
  surface := { width := 4, height := 3 }
  tickRate := 25
  maxCatchUp := Metronome.defaultCap
  children := [⟨0⟩, ⟨1⟩, ⟨2⟩]
  data := ({} : Blackboard).set Blackboard.firstCycle (.bool true)
  world := { members := #[.bouncer ⟨{}, 500⟩, .bouncer ⟨{}, 500⟩, .bouncer ⟨{}, 500⟩] }
  rate_pos := by decide

/-- The first pass cannot be drawn and brings three hits, the second one the other three. -/
theorem play_bounces_tumblers :
    let g' := play tumblers ([.start, .start] : List (Command MemberId Troupe Screen Event))
    (∃ k, Bounces tumblers k g') ∧ tumblers.hits 1 = 3 ∧ tumblers.hits 2 = 6 ∧ g'.ticks = 2 ∧
      g'.phase = .stopped := by
  refine ⟨play_bounces ?_ (by decide +kernel) (by decide) _ rfl (by decide +kernel), ?_⟩
  · intro i hi
    have : tumblers.children.all tumblers.world.isBouncer = true := by decide +kernel
    exact .inl (List.all_eq_true.1 this i hi)
  · decide +kernel

end Stagecraft.Game
