import Stagecraft.Proofs.Game.Arming

/-!
The journal of a game: everything that its children and its surface note in a run. Main statement:
whatever the host asks and whatever the children do, the journal is a sequence of passes over the
children that are present, numbered from zero, and only a fault leaves one unfinished
(`history_journal`).
-/

set_option autoImplicit false

namespace Stagecraft.Game

variable {κ W σ ν : Type}

namespace Command

/-- Whether the host itself changes what passes find. -/
def alters : Command κ W σ ν → Bool
  | .changeData _ | .changeSurface _ | .changeWorld _ => true
  | _ => false

def Makes (g : Game κ W σ) : Command κ W σ ν → List Pass.Kind → Prop
  | .update, kinds => kinds = [.update]
  | .render, kinds => kinds = [.render]
  | .tick, kinds => kinds = Pass.Kind.tick
  | .advance _, kinds => ∃ n, kinds = (List.replicate n Pass.Kind.tick).flatten
  | k, kinds => kinds = if k.arms g then Pass.Kind.tick else []

def regroup : Command κ W σ ν → List κ → List κ
  | .add c, l => l ++ [c]
  | .remove i, l => l.eraseIdx i
  | _, l => l

def rescore : Command κ W σ ν → Playlist → Playlist
  | .addAudio name path, p => p.insert name path
  | _, p => p

def added? : Command κ W σ ν → Option κ
  | .add c => some c
  | _ => none

end Command

/-- The children that are left of `l` and of those that were added since, in this order. -/
def roster (l : List κ) : List (Command κ W σ ν) → List κ
  | [] => l
  | k :: rest => roster (k.regroup l) rest

/-- Nobody changes places, and nobody comes in but by being added. -/
theorem roster_sublist (cs : List (Command κ W σ ν)) (l : List κ) :
    (roster l cs).Sublist (l ++ cs.filterMap Command.added?) := by
  induction cs generalizing l with
  | nil => simp [roster]
  | cons k rest ih =>
    refine (ih (k.regroup l)).trans ?_
    cases k with
    | add c =>
      have hc : (Command.add c : Command κ W σ ν).added? = some c := rfl
      rw [List.filterMap_cons_some hc, Command.regroup, List.append_assoc]
      exact List.Sublist.refl _
    | remove i =>
      rw [List.filterMap_cons_none rfl]
      exact (List.eraseIdx_sublist l i).append_right _
    | _ =>
      rw [List.filterMap_cons_none rfl]
      exact List.Sublist.refl _

variable [Actor κ W ν] [Surface σ ν]

theorem arm_backstage (g : Game κ W σ) :
    ((arm : Act ν GameError (Game κ W σ) Unit) g).state.backstage = g.backstage := by
  have hp : (g.firstPass ν).state.backstage = g.backstage :=
    (tick_passed (ν := ν) { g with arming := true }).backstage_eq
  rw [arm_apply]
  rcases h : g.firstPass ν with ⟨(e | f) | _, g', l⟩ <;> rw [h] at hp
  · exact hp
  · exact hp
  · by_cases hs : g'.phase = .stopped
    · simp only [hs, if_true]
      exact hp
    · simp only [hs, if_false, Outcome.after_state, startTimer_apply]
      split <;> exact hp

theorem launch_backstage (g : Game κ W σ) :
    ((launch : Act ν GameError (Game κ W σ) Unit) g).state.backstage = g.backstage := by
  have ha := arm_backstage (ν := ν) g
  rw [launch, Act.bind_apply]
  cases ((arm : Act ν GameError (Game κ W σ) Unit) g).result <;> exact ha

theorem perform_backstage (k : Command κ W σ ν) (g : Game κ W σ) :
    (k.perform g).state.backstage = (k.regroup g.children, k.rescore g.audio) := by
  have hgate (hk : k = .start ∨ k = .gesture) :
      (k.perform g).state.backstage = g.backstage := by
    cases ha : k.arms g with
    | false => exact (perform_of_not_arms hk ha).2.2.2.1
    | true =>
      rw [(perform_of_arms ha).1]
      exact launch_backstage g
  cases k with
  | start => exact hgate (.inl rfl)
  | gesture => exact hgate (.inr rfl)
  | update => exact (update_passed g).backstage_eq
  | tick => exact (tick_passed g).backstage_eq
  | stop =>
    rw [Command.perform, Act.map_state, stop_apply]
    rfl
  | advance d =>
    rw [Command.perform, Act.map_state]
    cases hm : g.timer with
    | none => rw [advance_of_no_timer hm]; rfl
    | some m => exact (advance_passed hm d).backstage_eq
  | add | remove | addAudio | render | untilNext | changeData | changeSurface | changeWorld => rfl

theorem perform_children (k : Command κ W σ ν) (g : Game κ W σ) :
    (k.perform g).state.children = k.regroup g.children :=
  congrArg Prod.fst (perform_backstage k g)

theorem children_of_history (cs : List (Command κ W σ ν)) {g : Game κ W σ}
    {past rest : List (Call κ W σ ν)} {k : Call κ W σ ν} (h : history g cs = past ++ k :: rest) :
    k.before.children = roster g.children (past.map Call.command) := by
  induction cs generalizing g past with
  | nil => simp [history] at h
  | cons c cs ih =>
    cases past with
    | nil =>
      simp only [history, List.nil_append, List.cons.injEq] at h
      obtain ⟨rfl, _⟩ := h
      rfl
    | cons j past =>
      simp only [history, List.cons_append, List.cons.injEq] at h
      obtain ⟨rfl, h⟩ := h
      rw [ih h, List.map_cons, roster, perform_children]

/-- A command that no fault breaks off comes to the passes that are its own. A first pass that
does not fail ends the first cycle, and nothing else reaches what passes find. -/
theorem perform_consists {k : Command κ W σ ν} {g : Game κ W σ} (hk : k.alters = false)
    (hf : (k.perform g).faulted = false) :
    ∃ ps y, Consists g (k.perform g).said ps y ∧ k.Makes g (ps.map Pass.kind) ∧
      (k.perform g).state.scene = if k.arms g && (k.perform g).succeeded then y.opened else y := by
  have hgate (hk : k = .start ∨ k = .gesture) : ∃ ps y, Consists g (k.perform g).said ps y ∧
      (ps.map Pass.kind = if k.arms g then Pass.Kind.tick else []) ∧
      (k.perform g).state.scene = if k.arms g && (k.perform g).succeeded then y.opened else y := by
    cases ha : k.arms g with
    | false =>
      obtain ⟨_, hn, hs, _⟩ := perform_of_not_arms hk ha
      exact ⟨[], g.scene, .nil hn, rfl, hs⟩
    | true =>
      obtain ⟨u, r, y, hkinds, hc, hres, harmed⟩ := perform_armed ha hf
      refine ⟨[u, r], y, hc, hkinds, ?_⟩
      rw [Outcome.succeeded, hres]
      cases harmed with
      | failed hr hs => rw [hr, hs]; rfl
      | stopped hr _ hs => rw [hr, hs]; rfl
      | started hr _ _ hs => rw [hr, hs]; rfl
  cases k with
  | start => exact hgate (.inl rfl)
  | gesture => exact hgate (.inr rfl)
  | update =>
    rw [Command.perform, Act.map_faulted] at hf
    obtain ⟨u, hu, hc, _⟩ := update_spec hf
    exact ⟨[u], _, hc, by simp [Command.Makes, hu], rfl⟩
  | render =>
    rw [Command.perform, Act.map_faulted] at hf
    obtain ⟨r, hr, hc, _⟩ := render_spec hf
    exact ⟨[r], _, hc, by simp [Command.Makes, hr], rfl⟩
  | tick =>
    rw [Command.perform, Act.map_faulted] at hf
    obtain ⟨u, r, hkinds, hc, _⟩ := tick_spec hf
    exact ⟨[u, r], _, hc, hkinds, rfl⟩
  | advance d =>
    rw [Command.perform, Act.map_faulted] at hf
    obtain ⟨ps, n, hc, hkinds⟩ := advance_consists hf
    exact ⟨ps, _, hc, ⟨n, hkinds⟩, rfl⟩
  | stop =>
    refine ⟨[], g.scene, .nil ?_, rfl, ?_⟩ <;> rw [Command.perform, Act.map_apply, stop_apply]
    · rw [stopNotice]
      split <;> rfl
    · rfl
  | add | remove | addAudio | untilNext => exact ⟨[], g.scene, .nil rfl, rfl, rfl⟩
  | changeData | changeSurface | changeWorld => cases hk

theorem perform_broken {k : Command κ W σ ν} {g : Game κ W σ}
    (hf : (k.perform g).faulted = true) :
    ∃ ps rest y kinds, BreaksOff g (k.perform g).said ps rest y ∧ k.Makes g kinds ∧
      ps.map Pass.kind <+: kinds ∧ (k.perform g).state.ticks = y.ticks := by
  have hgate (hk : k = .start ∨ k = .gesture) : ∃ ps rest y kinds,
      BreaksOff g (k.perform g).said ps rest y ∧
      (kinds = if k.arms g then Pass.Kind.tick else []) ∧
      ps.map Pass.kind <+: kinds ∧ (k.perform g).state.ticks = y.ticks := by
    cases ha : k.arms g with
    | false =>
      rw [(perform_of_not_arms hk ha).1] at hf
      cases hf
    | true =>
      rw [(perform_of_arms ha).1] at hf ⊢
      rw [Act.map_faulted] at hf
      obtain ⟨ps, rest, y, hkinds, hb, hy⟩ := launch_broken hf
      exact ⟨ps, rest, y, _, hb, rfl, hkinds, hy⟩
  cases k with
  | start => exact hgate (.inl rfl)
  | gesture => exact hgate (.inr rfl)
  | update =>
    rw [Command.perform, Act.map_faulted] at hf
    obtain ⟨hb, hy⟩ := update_broken hf
    exact ⟨[], _, g.scene, _, .at_once hb, rfl, List.nil_prefix, hy⟩
  | render =>
    rw [Command.perform, Act.map_faulted] at hf
    obtain ⟨hb, hy⟩ := render_broken hf
    exact ⟨[], _, g.scene, _, .at_once hb, rfl, List.nil_prefix, hy⟩
  | tick =>
    rw [Command.perform, Act.map_faulted] at hf
    obtain ⟨ps, rest, y, hkinds, hb, hy⟩ := tick_broken hf
    exact ⟨ps, rest, y, _, hb, rfl, hkinds, hy⟩
  | advance d =>
    rw [Command.perform, Act.map_faulted] at hf
    obtain ⟨ps, rest, y, n, hb, hy, hkinds⟩ := advance_broken hf
    exact ⟨ps, rest, y, _, hb, ⟨n, rfl⟩, hkinds, hy⟩
  | stop =>
    rw [Command.perform, Act.map_faulted, stop_apply] at hf
    cases hf
  | add | remove | addAudio | untilNext | changeData | changeSurface | changeWorld => cases hf

/-- A call with the passes that it made, and with what was noted in one that a fault broke off. -/
structure Account (κ W σ ν : Type) where
  call : Call κ W σ ν
  passes : List (Pass κ W σ ν)
  rest : List ν

namespace Account

inductive Faithful (a : Account κ W σ ν) : Prop
  | whole {y : Scene W σ} (hf : a.call.outcome.faulted = false)
      (hc : Consists a.call.before a.call.outcome.said a.passes y) (hr : a.rest = [])
      (hk : a.call.command.Makes a.call.before (a.passes.map Pass.kind))
      (hs : a.call.after.scene =
        if a.call.command.arms a.call.before && a.call.succeeds then y.opened else y) : Faithful a
  | broken {y : Scene W σ} {kinds : List Pass.Kind} (hf : a.call.outcome.faulted = true)
      (hb : BreaksOff a.call.before a.call.outcome.said a.passes a.rest y)
      (hk : a.call.command.Makes a.call.before kinds) (hp : a.passes.map Pass.kind <+: kinds)
      (ht : a.call.after.ticks = y.ticks) : Faithful a

theorem exists_faithful {k : Command κ W σ ν} (g : Game κ W σ) (hk : k.alters = false) :
    ∃ a : Account κ W σ ν, a.call = ⟨k, g, k.perform g⟩ ∧ a.Faithful := by
  cases hf : (k.perform g).faulted with
  | false =>
    obtain ⟨ps, y, hc, hm, hs⟩ := perform_consists hk hf
    exact ⟨⟨⟨k, g, k.perform g⟩, ps, []⟩, rfl, .whole hf hc rfl hm hs⟩
  | true =>
    obtain ⟨ps, rest, y, kinds, hb, hm, hp, hy⟩ := perform_broken hf
    exact ⟨⟨⟨k, g, k.perform g⟩, ps, rest⟩, rfl, .broken hf hb hm hp hy⟩

variable {a : Account κ W σ ν}

theorem Faithful.noted (h : a.Faithful) :
    notesOf a.call.outcome.said = a.passes.flatMap Pass.noted ++ a.rest := by
  cases h with
  | whole _ hc hr => rw [hc.noted, hr, List.append_nil]
  | broken _ hb => exact hb.noted

theorem Faithful.tells (h : a.Faithful) : ∀ p ∈ a.passes, p.Tells := by
  cases h with
  | whole _ hc => exact hc.enacts.tells
  | broken _ hb => exact hb.enacts.tells

theorem Faithful.numbered (h : a.Faithful) :
    ∃ n, a.call.after.ticks = a.call.before.ticks + n ∧
      a.passes.filterMap Pass.tick? = List.range' a.call.before.ticks n := by
  cases h with
  | @whole y _ hc _ _ hs =>
    obtain ⟨n, hn, hr⟩ := hc.enacts.numbered
    have hy : a.call.after.ticks = y.ticks := by
      rw [show a.call.after.ticks = _ from congrArg Scene.ticks hs]
      split <;> rfl
    exact ⟨n, hy.trans hn, hr⟩
  | broken _ hb _ _ ht =>
    obtain ⟨n, hn, hr⟩ := hb.enacts.numbered
    exact ⟨n, ht.trans hn, hr⟩

end Account

def journal (g : Game κ W σ) (cs : List (Command κ W σ ν)) : List ν :=
  (history g cs).flatMap fun k => notesOf k.outcome.said

/-- The accounts of a run of a new game. -/
structure Chronicle (g : Game κ W σ) (cs : List (Command κ W σ ν)) (book : List (Account κ W σ ν)) :
    Prop where
  calls : book.map Account.call = history g cs
  faithful : ∀ a ∈ book, a.Faithful
  noted : journal g cs = book.flatMap fun a => a.passes.flatMap Pass.noted ++ a.rest
  numbered : (book.flatMap Account.passes).filterMap Pass.tick? = List.range (play g cs).ticks
  told : ∀ a ∈ book, ∀ p ∈ a.passes, p.Tells
  present : ∀ past k rest, history g cs = past ++ k :: rest →
    k.before.children = roster [] (past.map Call.command) ∧
      k.before.children.Sublist ((past.map Call.command).filterMap Command.added?)

theorem exists_accounts (cs : List (Command κ W σ ν)) (g : Game κ W σ)
    (hcs : ∀ k ∈ cs, k.alters = false) :
    ∃ book : List (Account κ W σ ν), book.map Account.call = history g cs ∧
      (∀ a ∈ book, a.Faithful) ∧ ∃ n, (play g cs).ticks = g.ticks + n ∧
        (book.flatMap Account.passes).filterMap Pass.tick? = List.range' g.ticks n := by
  induction cs generalizing g with
  | nil => exact ⟨[], rfl, by simp, 0, rfl, rfl⟩
  | cons k cs ih =>
    obtain ⟨a, ha, hfaith⟩ := Account.exists_faithful g (hcs k List.mem_cons_self)
    obtain ⟨book, hcalls, hbook, n, hn, hr⟩ :=
      ih (k.perform g).state fun j hj => hcs j (List.mem_cons_of_mem _ hj)
    obtain ⟨m, hm, hra⟩ := hfaith.numbered
    simp only [ha, Call.after] at hm hra
    refine ⟨a :: book, by rw [List.map_cons, ha, hcalls, history], ?_, m + n, ?_, ?_⟩
    · intro b hb
      rcases List.mem_cons.1 hb with rfl | hb
      · exact hfaith
      · exact hbook b hb
    · rw [play, hn, hm, Nat.add_assoc]
    · rw [List.flatMap_cons, List.filterMap_append, hra, hr, hm, List.range'_append_1]

theorem history_journal {s : σ} {w : W} {c : Config} {g : Game κ W σ}
    (h : ((create s w c : Act ν GameError Unit (Game κ W σ)) ()).result = .ok g)
    {cs : List (Command κ W σ ν)} (hcs : ∀ k ∈ cs, k.alters = false) :
    ∃ book, Chronicle g cs book := by
  obtain ⟨_, _, ht, hch⟩ := create_eq_ok h
  obtain ⟨book, hcalls, hbook, n, hn, hr⟩ := exists_accounts cs g hcs
  refine ⟨book, hcalls, hbook, ?_, ?_, fun a ha => (hbook a ha).tells, ?_⟩
  · rw [journal, ← hcalls, List.flatMap_map, List.flatMap_def, List.flatMap_def]
    exact congrArg List.flatten (List.map_congr_left fun a ha => (hbook a ha).noted)
  · rw [hr, hn, ht, Nat.zero_add, List.range_eq_range']
  · intro past k rest hk
    have hroster := children_of_history cs hk
    rw [hch] at hroster
    exact ⟨hroster, hroster ▸ roster_sublist _ []⟩

theorem member_keepsTick (i : MemberId) : Actor.KeepsTick Troupe Event i := by
  intro stop p
  cases h : p.2.get? i <;>
    simp [Actor.update, Act.bind_apply, h, Act.zoom_apply, Outcome.mapState]

/-- Children come and go, passes fail, and the game is stopped by a child. No member of a troupe
writes to the number of a pass, so all of them are told the right one. -/
theorem history_journal_rehearsal :
    let cs : List (Command MemberId Troupe Screen Event) :=
      [.start, .add ⟨0⟩, .gesture, .add ⟨0⟩, .gesture, .tick, .remove 1, .update, .render,
        .advance (.ofNanos 100000000), .tick]
    (play rehearsal cs).ticks = 8 ∧ (play rehearsal cs).phase = .stopped ∧
      ∃ book, Chronicle rehearsal cs book ∧ ∀ a ∈ book, ∀ p ∈ a.passes,
        ∀ k told children asked, p.deed = .update k told children asked → ∀ n ∈ told, n = k := by
  intro cs
  have hcs : ∀ k ∈ cs, k.alters = false := by simp [cs, Command.alters]
  obtain ⟨book, hbook⟩ := history_journal rehearsal_created hcs
  refine ⟨by decide +kernel, by decide +kernel, book, hbook, ?_⟩
  intro a ha p hp k told children asked hdeed
  have htells := hbook.told a ha p hp
  rw [Pass.Tells, hdeed] at htells
  exact htells.2.2 fun i _ => member_keepsTick i

/-- A child that notes the number of a pass as it finds it, and leaves a greater one. -/
structure Usher where
  name : String
  adds : Nat

instance : Actor Usher Unit Event where
  update c _ := do
    let now := (← get).1
    Act.note (.update c.name now.tick)
    set ({ now with tick := now.tick + c.adds }, ())
    return false
  render c := Act.note (.render c.name)

/-- The second child does not find the number of the first pass, but what the first child wrote
there. What is cleared ends one column before the surface does, as single precision has no number
for the width. -/
theorem first_pass_of_ushers :
    let o := (create ⟨16777217, 1, none⟩ () {} :
      Act Event GameError Unit (Game Usher Unit Screen)) ()
    o.result.toOption.map (journal · [.add ⟨"first", 100⟩, .add ⟨"second", 0⟩, .tick]) =
      some [Event.update "first" 0, .update "second" 100, .clear ⟨⟨0, 0⟩, ⟨16777216, 1⟩⟩,
        .render "first", .render "second"] := by
  decide +kernel

end Stagecraft.Game
