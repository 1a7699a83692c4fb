import Stagecraft.Proofs.Game.Lifecycle

/-!
What passes do, call by call: which of the children and of the surface are called, in which order,
and what each call finds. An update pass and a render pass are described by rules (`Turns`,
`Draws`), and a sequence of passes by `Enacts`. Main statements: whatever the children do, a tick is
an update pass and a render pass after it (`tick_spec`), time that elapses comes to whole ticks
(`advance_consists`), and a fault breaks off at most one pass (`tick_broken`, `advance_broken`).
-/

set_option autoImplicit false

namespace Stagecraft

def notesOf {ν : Type} : List (Entry ν) → List ν
  | [] => []
  | .note n :: rest => n :: notesOf rest
  | .log _ :: rest => notesOf rest

section Notes

variable {ν : Type}

@[simp] theorem notesOf_nil : notesOf ([] : List (Entry ν)) = [] := rfl

@[simp] theorem notesOf_log (line : Log.Line) (l : List (Entry ν)) :
    notesOf (.log line :: l) = notesOf l := rfl

@[simp] theorem notesOf_append (l m : List (Entry ν)) :
    notesOf (l ++ m) = notesOf l ++ notesOf m := by
  induction l with
  | nil => rfl
  | cons e l ih => cases e <;> simp [notesOf, ih]

@[simp] theorem notesOf_map_note (l : List ν) : notesOf (l.map Entry.note) = l := by
  induction l with
  | nil => rfl
  | cons n l ih => simp [notesOf, ih]

theorem notesOf_dropNotice (m : Metronome) (d : Duration) : notesOf (m.dropNotice ν d) = [] := by
  unfold Metronome.dropNotice
  split <;> rfl

end Notes

/-- The child leaves the number of the pass as it finds it. -/
def Actor.KeepsTick {κ : Type} (W ν : Type) [Actor κ W ν] (c : κ) : Prop :=
  ∀ (stop : Bool) (p : Moment × W),
    (update c stop p : Outcome ν Empty (Moment × W) Bool).state.1.tick = p.1.tick

namespace Game

variable {κ W σ ν ε α : Type}

/-- What passes can change: the data, what stands behind the children, the surface, and the count
of update passes. -/
structure Scene (W σ : Type) where
  data : Blackboard
  world : W
  surface : σ
  ticks : Nat

def scene (g : Game κ W σ) : Scene W σ := ⟨g.data, g.world, g.surface, g.ticks⟩

/-- All of the surface: from the corner where both coordinates are zero, and as far as its sides
reach. -/
def Scene.extent (ν : Type) [Surface σ ν] (x : Scene W σ) : Rect :=
  ⟨⟨0, 0⟩, ⟨.ofNat (Surface.width ν x.surface), .ofNat (Surface.height ν x.surface)⟩⟩

def Scene.hasRoom (x : Scene W σ) : Bool := decide (x.ticks + 1 < 2 ^ 64)

def Scene.opened (x : Scene W σ) : Scene W σ :=
  { x with data := x.data.set Blackboard.firstCycle (.bool false) }

/-- What a pass calls: `update` of children, or `clear` of the surface and then `render` of
children. The numbers in `told` are those that the children find in the place of the number of the
pass. -/
inductive Deed (κ : Type) where
  | update (tick : Nat) (told : List Nat) (children : List κ) (stopAsked : Bool)
  | render (cleared : Rect) (children : List κ) (failure : Option RenderError)

/-- A pass with what it found, what was noted in it, and what it left. -/
structure Pass (κ W σ ν : Type) where
  deed : Deed κ
  found : Scene W σ
  noted : List ν
  left : Scene W σ

namespace Pass

def tick? (p : Pass κ W σ ν) : Option Nat :=
  match p.deed with
  | .update k .. => some k
  | .render .. => none

inductive Kind where
  | update
  | render
  deriving DecidableEq

def kind (p : Pass κ W σ ν) : Kind :=
  match p.deed with
  | .update .. => .update
  | .render .. => .render

/-- A tick is an update pass and the render pass after it. -/
def Kind.tick : List Kind := [.update, .render]

def stopAsked (p : Pass κ W σ ν) : Bool :=
  match p.deed with
  | .update _ _ _ asked => asked
  | .render .. => false

def ending : Option RenderError → Except (Halt RenderError) Unit
  | none => .ok ()
  | some e => .error (.error e)

def result (p : Pass κ W σ ν) : Except (Halt GameError) Unit :=
  match p.deed with
  | .render _ _ (some e) => .error (.error (.render e))
  | _ => .ok ()

end Pass

section Rules

variable [Actor κ W ν] [Surface σ ν]

/-- The calls of an update pass. Each child finds data, number and world as the one before left
them, and is told whether a stop was asked for so far. Nobody is passed over; only a fault ends the
calls early. -/
inductive Turns : Bool → Moment × W → List κ → List Nat → List ν → Except (Halt Empty) Bool →
    Moment × W → Prop
  | done {stop : Bool} {p : Moment × W} : Turns stop p [] [] [] (.ok stop) p
  | turn {stop asked : Bool} {p q r : Moment × W} {c : κ} {rest : List κ} {told : List Nat}
      {said : List (Entry ν)} {later : List ν} {last : Except (Halt Empty) Bool}
      (h : Actor.update c stop p = ⟨.ok asked, q, said⟩)
      (next : Turns (stop || asked) q rest told later last r) :
      Turns stop p (c :: rest) (p.1.tick :: told) (notesOf said ++ later) last r
  | broken {stop : Bool} {p q : Moment × W} {c : κ} {rest : List κ} {said : List (Entry ν)}
      {x : Halt Empty} (h : Actor.update c stop p = ⟨.error x, q, said⟩) :
      Turns stop p (c :: rest) [p.1.tick] (notesOf said) (.error x) q

/-- The calls to children in a render pass: `Draws p children called ..` says which of the children
had theirs, and that is all of them up to the first one that does not succeed. -/
inductive Draws :
    W × σ → List κ → List κ → List ν → Except (Halt RenderError) Unit → W × σ → Prop
  | done {p : W × σ} : Draws p [] [] [] (.ok ()) p
  | drawn {p q r : W × σ} {c : κ} {rest called : List κ} {said : List (Entry ν)} {later : List ν}
      {last : Except (Halt RenderError) Unit} (h : Actor.render c p = ⟨.ok (), q, said⟩)
      (next : Draws q rest called later last r) :
      Draws p (c :: rest) (c :: called) (notesOf said ++ later) last r
  | failed {p q : W × σ} {c : κ} {rest : List κ} {said : List (Entry ν)} {x : Halt RenderError}
      (h : Actor.render c p = ⟨.error x, q, said⟩) :
      Draws p (c :: rest) [c] (notesOf said) (.error x) q

/-- A pass over these children, as the rules have it. An update pass bears the number of update
passes before it, and starts with this number; a render pass clears the whole surface, once, before
any child is drawn. -/
inductive Pass.Made (children : List κ) : Pass κ W σ ν → Prop
  | update {x : Scene W σ} {told : List Nat} {noted : List ν} {asked : Bool} {p : Moment × W}
      (h : Turns false (⟨x.data, x.ticks⟩, x.world) children told noted (.ok asked) p) :
      Made children
        ⟨.update x.ticks told children asked, x, noted,
          ⟨p.1.data, p.2, x.surface, x.ticks + 1⟩⟩
  | render {x : Scene W σ} {s : σ} {called : List κ} {first noted : List ν}
      {failure : Option RenderError} {q : W × σ}
      (hc : Surface.clear (x.extent ν) x.surface = (s, first))
      (h : Draws (x.world, s) children called noted (Pass.ending failure) q) :
      Made children
        ⟨.render (x.extent ν) called failure, x, first ++ noted, ⟨x.data, q.1, q.2, x.ticks⟩⟩

/-- What is noted after the scene `x` until a fault: nothing, or the beginning of one more pass.
A pass is also unfinished when there is no room to count it. -/
inductive Breaks (children : List κ) (x : Scene W σ) : List ν → Prop
  | outside : Breaks children x []
  | update {told : List Nat} {noted : List ν} {last : Except (Halt Empty) Bool} {p : Moment × W}
      (h : Turns false (⟨x.data, x.ticks⟩, x.world) children told noted last p)
      (hl : ∀ asked, last = .ok asked → x.hasRoom = false) : Breaks children x noted
  | render {s : σ} {called : List κ} {first noted : List ν} {f : Fault} {q : W × σ}
      (hc : Surface.clear (x.extent ν) x.surface = (s, first))
      (h : Draws (x.world, s) children called noted (.error (.fault f)) q) :
      Breaks children x (first ++ noted)

theorem Turns.told_length {stop asked : Bool} {p q : Moment × W} {children : List κ}
    {told : List Nat} {noted : List ν} {last : Except (Halt Empty) Bool}
    (h : Turns stop p children told noted last q) (hl : last = .ok asked) :
    told.length = children.length := by
  induction h with
  | done => rfl
  | turn _ _ ih => rw [List.length_cons, List.length_cons, ih hl]
  | broken => cases hl

theorem Turns.told_eq {stop : Bool} {p q : Moment × W} {children : List κ} {told : List Nat}
    {noted : List ν} {last : Except (Halt Empty) Bool} (h : Turns stop p children told noted last q)
    (hk : ∀ c ∈ children, Actor.KeepsTick W ν c) : ∀ n ∈ told, n = p.1.tick := by
  induction h with
  | done => exact List.forall_mem_nil _
  | @turn stop _ p q _ c _ _ _ _ _ h _ ih =>
    have hq : q.1.tick = p.1.tick := by
      have := hk c List.mem_cons_self stop p
      rwa [h] at this
    have hrest := ih fun d hd => hk d (List.mem_cons_of_mem _ hd)
    rw [hq] at hrest
    exact List.forall_mem_cons.2 ⟨rfl, hrest⟩
  | broken => exact List.forall_mem_singleton.2 rfl

/-- Every child of an update pass finds a number. The first one finds that of the pass, and so do
the others as long as no child writes there. -/
def Pass.Tells (p : Pass κ W σ ν) : Prop :=
  match p.deed with
  | .update k told children _ =>
    told.length = children.length ∧ (∀ n ∈ told.head?, n = k) ∧
      ((∀ c ∈ children, Actor.KeepsTick W ν c) → ∀ n ∈ told, n = k)
  | .render .. => True

theorem Pass.Made.tells {children : List κ} {p : Pass κ W σ ν} (h : p.Made children) :
    p.Tells := by
  cases h with
  | render => trivial
  | @update x told _ _ _ h =>
    refine ⟨h.told_length rfl, ?_, h.told_eq⟩
    cases h with
    | done => nofun
    | turn => exact fun n hn => (Option.some.inj hn).symm

theorem Pass.Made.tick?_eq {children : List κ} {p : Pass κ W σ ν} (h : p.Made children) :
    p.tick? = some p.found.ticks ∧ p.left.ticks = p.found.ticks + 1 ∨
      p.tick? = none ∧ p.left.ticks = p.found.ticks := by
  cases h with
  | update => exact .inl ⟨rfl, rfl⟩
  | render => exact .inr ⟨rfl, rfl⟩

/-- Passes that follow each other: each finds what the one before left. -/
inductive Enacts (children : List κ) : Scene W σ → List (Pass κ W σ ν) → Scene W σ → Prop
  | nil {x : Scene W σ} : Enacts children x [] x
  | cons {p : Pass κ W σ ν} {ps : List (Pass κ W σ ν)} {y : Scene W σ} (h : p.Made children)
      (next : Enacts children p.left ps y) : Enacts children p.found (p :: ps) y

namespace Enacts

variable {children : List κ} {x y z : Scene W σ} {ps qs : List (Pass κ W σ ν)}

theorem append (h : Enacts children x ps y) (h' : Enacts children y qs z) :
    Enacts children x (ps ++ qs) z := by
  induction h with
  | nil => exact h'
  | cons hp _ ih => exact .cons hp (ih h')

theorem single {p : Pass κ W σ ν} (h : p.Made children) : Enacts children p.found [p] p.left :=
  .cons h .nil

theorem of_nil (h : Enacts children x ([] : List (Pass κ W σ ν)) y) : x = y := by
  generalize hps : ([] : List (Pass κ W σ ν)) = qs at h
  cases h with
  | nil => rfl
  | cons => cases hps

theorem of_cons {p : Pass κ W σ ν} (h : Enacts children x (p :: ps) y) :
    x = p.found ∧ p.Made children ∧ Enacts children p.left ps y := by
  generalize hps : p :: ps = qs at h
  cases h with
  | nil => cases hps
  | cons hp next =>
    cases hps
    exact ⟨rfl, hp, next⟩

theorem tells (h : Enacts children x ps y) : ∀ p ∈ ps, p.Tells := by
  induction h with
  | nil => exact List.forall_mem_nil _
  | cons hp _ ih => exact List.forall_mem_cons.2 ⟨hp.tells, ih⟩

/-- Update passes are numbered by the count that they raise. -/
theorem numbered (h : Enacts children x ps y) :
    ∃ n, y.ticks = x.ticks + n ∧ ps.filterMap Pass.tick? = List.range' x.ticks n := by
  induction h with
  | nil => exact ⟨0, rfl, rfl⟩
  | cons hp _ ih =>
    obtain ⟨n, hn, hr⟩ := ih
    rcases hp.tick?_eq with ⟨hk, hl⟩ | ⟨hk, hl⟩ <;> rw [hl] at hn hr
    · refine ⟨n + 1, by omega, ?_⟩
      rw [List.filterMap_cons_some hk, hr, List.range'_succ]
    · exact ⟨n, hn, by rw [List.filterMap_cons_none hk, hr]⟩

end Enacts

end Rules

/-- `l` is what is said while exactly these passes lead a game to the scene `y`. -/
structure Consists [Actor κ W ν] [Surface σ ν] (g : Game κ W σ) (l : List (Entry ν))
    (ps : List (Pass κ W σ ν)) (y : Scene W σ) : Prop where
  enacts : Enacts g.children g.scene ps y
  noted : notesOf l = ps.flatMap Pass.noted

/-- `l` is what is said while exactly these passes lead a game to the scene `y` and a fault breaks
off what comes next; `rest` is noted in that. -/
structure BreaksOff [Actor κ W ν] [Surface σ ν] (g : Game κ W σ) (l : List (Entry ν))
    (ps : List (Pass κ W σ ν)) (rest : List ν) (y : Scene W σ) : Prop where
  enacts : Enacts g.children g.scene ps y
  breaks : Breaks g.children y rest
  noted : notesOf l = ps.flatMap Pass.noted ++ rest

/-- What is out of reach for passes, and for a game that starts or stops. -/
def backstage (g : Game κ W σ) : List κ × Playlist := (g.children, g.audio)

theorem Passed.backstage_eq {g g' : Game κ W σ} (h : Passed g g') :
    g'.backstage = g.backstage := by
  rcases h with ⟨_, _, _, _, rfl⟩ | ⟨_, _, _, _, _, rfl⟩ <;> rfl

theorem Passed.children_eq {g g' : Game κ W σ} (h : Passed g g') : g'.children = g.children :=
  congrArg Prod.fst h.backstage_eq

variable [Actor κ W ν] [Surface σ ν]

namespace Consists

variable {g g' : Game κ W σ} {l m : List (Entry ν)} {ps qs : List (Pass κ W σ ν)}
  {y z : Scene W σ}

theorem nil (h : notesOf l = []) : Consists g l [] g.scene := ⟨.nil, h⟩

theorem append (h : Consists g l ps y) (hc : g'.children = g.children) (hs : g'.scene = y)
    (h' : Consists g' m qs z) : Consists g (l ++ m) (ps ++ qs) z := by
  refine ⟨h.enacts.append ?_, ?_⟩
  · rw [← hc, ← hs]
    exact h'.enacts
  · rw [notesOf_append, h.noted, h'.noted, List.flatMap_append]

theorem breaksOff {rest : List ν} (h : Consists g l ps y) (hc : g'.children = g.children)
    (hs : g'.scene = y) (h' : BreaksOff g' m qs rest z) :
    BreaksOff g (l ++ m) (ps ++ qs) rest z := by
  refine ⟨h.enacts.append ?_, hc ▸ h'.breaks, ?_⟩
  · rw [← hc, ← hs]
    exact h'.enacts
  · rw [notesOf_append, h.noted, h'.noted, List.flatMap_append, List.append_assoc]

end Consists

theorem BreaksOff.at_once {g : Game κ W σ} {l : List (Entry ν)}
    (h : Breaks g.children g.scene (notesOf l)) : BreaksOff g l [] (notesOf l) g.scene :=
  ⟨.nil, h, rfl⟩

omit [Surface σ ν] in
theorem updateAll_turns (children : List κ) {stop : Bool} {p q : Moment × W}
    {l : List (Entry ν)} {last : Except (Halt Empty) Bool}
    (h : Actor.updateAll children stop p = ⟨last, q, l⟩) :
    ∃ told, Turns stop p children told (notesOf l) last q := by
  induction children generalizing stop p l with
  | nil =>
    cases h
    exact ⟨[], .done⟩
  | cons c rest ih =>
    rw [Actor.updateAll, Act.bind_apply] at h
    rcases hc : (Actor.update c stop p : Outcome ν Empty (Moment × W) Bool) with
      ⟨x | a, p', l'⟩ <;> rw [hc] at h
    · cases h
      exact ⟨_, .broken hc⟩
    · rcases hr : (Actor.updateAll rest (stop || a) : Act ν _ _ _) p' with ⟨r, q', m⟩
      simp only [hr, Outcome.after, Outcome.mk.injEq] at h
      obtain ⟨rfl, rfl, rfl⟩ := h
      obtain ⟨told, ht⟩ := ih hr
      rw [notesOf_append]
      exact ⟨_, .turn hc ht⟩

theorem each_draws (children : List κ) {p q : W × σ} {l : List (Entry ν)}
    {last : Except (Halt RenderError) Unit}
    (h : Act.each (Actor.render : κ → Act ν RenderError (W × σ) Unit) children p = ⟨last, q, l⟩) :
    ∃ called, Draws p children called (notesOf l) last q := by
  induction children generalizing p l with
  | nil =>
    cases h
    exact ⟨[], .done⟩
  | cons c rest ih =>
    rw [Act.each, Act.bind_apply] at h
    rcases hc : (Actor.render c p : Outcome ν RenderError (W × σ) Unit) with
      ⟨x | _, p', l'⟩ <;> rw [hc] at h
    · cases h
      exact ⟨[c], .failed hc⟩
    · rcases hr : Act.each (Actor.render : κ → Act ν RenderError (W × σ) Unit) rest p' with
        ⟨r, q', m⟩
      simp only [hr, Outcome.after, Outcome.mk.injEq] at h
      obtain ⟨rfl, rfl, rfl⟩ := h
      obtain ⟨called, hd⟩ := ih hr
      rw [notesOf_append]
      exact ⟨c :: called, .drawn hc hd⟩

omit [Surface σ ν] in
theorem update_eq_ok {g : Game κ W σ} {asked : Bool} {p : Moment × W} {l : List (Entry ν)}
    (h : g.turns ν = ⟨.ok asked, p, l⟩) (hr : g.hasRoom = true) :
    ∃ m, notesOf m = notesOf l ∧ (update : Act ν ε (Game κ W σ) Unit) g =
      ⟨.ok (), if asked && g.grantsStop then (g.counted p).halted else g.counted p, m⟩ := by
  have hg : (g.counted p).grantsStop = g.grantsStop := rfl
  rw [update_apply, h]
  simp only [hr, if_true]
  cases asked with
  | false => exact ⟨l, rfl, rfl⟩
  | true =>
    simp only [if_true, obeyStop_apply, hg]
    cases g.grantsStop with
    | true =>
      refine ⟨_, ?_, rfl⟩
      simp [stopNotice]
      split <;> simp
    | false => exact ⟨_, by simp, rfl⟩

/-- An update pass that no fault breaks off. A stop that is asked for and granted is all that it
does to the control of the game. -/
theorem update_spec {g : Game κ W σ}
    (hf : ((update : Act ν ε (Game κ W σ) Unit) g).faulted = false) :
    let o := (update : Act ν ε (Game κ W σ) Unit) g
    ∃ u : Pass κ W σ ν, u.kind = .update ∧ Consists g o.said [u] o.state.scene ∧
      o.result = .ok () ∧
      o.state.control = if u.stopAsked && g.grantsStop then g.control.halted else g.control := by
  rcases h : g.turns ν with ⟨x | asked, p, l⟩
  · rw [update_apply, h] at hf
    cases x with
    | error e => exact e.elim
    | fault f => cases hf
  · cases hr : g.hasRoom with
    | false =>
      rw [update_apply, h] at hf
      simp [hr, Outcome.faulted] at hf
    | true =>
      obtain ⟨m, hm, he⟩ := update_eq_ok (ε := ε) h hr
      obtain ⟨told, ht⟩ := updateAll_turns g.children h
      let u : Pass κ W σ ν :=
        ⟨.update g.ticks told g.children asked, g.scene, notesOf l, (g.counted p).scene⟩
      have hu : u.Made g.children := .update (x := g.scene) ht
      have hs : (if asked && g.grantsStop then (g.counted p).halted else g.counted p).scene =
          u.left := by
        split <;> rfl
      have hc : (if asked && g.grantsStop then (g.counted p).halted else g.counted p).control =
          if asked && g.grantsStop then g.control.halted else g.control := by
        split <;> rfl
      refine ⟨u, rfl, ?_, ?_, ?_⟩ <;> rw [he]
      · exact ⟨hs ▸ .single hu, by simp [hm, u]⟩
      · exact hc

theorem update_broken {g : Game κ W σ}
    (hf : ((update : Act ν ε (Game κ W σ) Unit) g).faulted = true) :
    let o := (update : Act ν ε (Game κ W σ) Unit) g
    Breaks g.children g.scene (notesOf o.said) ∧ o.state.ticks = g.ticks := by
  rcases h : g.turns ν with ⟨x | asked, p, l⟩ <;> obtain ⟨_, ht⟩ := updateAll_turns g.children h
  · simp only [update_apply, h]
    refine ⟨.update ht ?_, trivial⟩
    rintro asked ⟨⟩
  · cases hr : g.hasRoom with
    | false =>
      simp only [update_apply, h, hr, Bool.false_eq_true, if_false]
      exact ⟨.update ht fun _ _ => hr, trivial⟩
    | true =>
      obtain ⟨m, _, he⟩ := update_eq_ok (ε := ε) h hr
      rw [he] at hf
      cases hf

theorem renderAll_apply (children : List κ) (w : W) (s : σ) :
    (Actor.renderAll children : Act ν RenderError (W × σ) Unit) (w, s) =
      (Act.each Actor.render children
        (w, (Surface.clear (Surface.bounds ν s) s : σ × List ν).1)).after
          ((Surface.clear (Surface.bounds ν s) s : σ × List ν).2.map .note) := by
  simp [Actor.renderAll, Act.bind_apply, Act.zoom_apply, Surface.clearAct, Surface.act,
    Outcome.mapState]

omit [Actor κ W ν] in
theorem bounds_eq_extent (g : Game κ W σ) : Surface.bounds ν g.surface = g.scene.extent ν := rfl

theorem render_apply {g : Game κ W σ} {s : σ} {first : List ν} {q : W × σ} {l : List (Entry ν)}
    {last : Except (Halt RenderError) Unit}
    (hc : Surface.clear (g.scene.extent ν) g.surface = (s, first))
    (h : Act.each (Actor.render : κ → Act ν RenderError (W × σ) Unit) g.children (g.world, s) =
      ⟨last, q, l⟩) :
    (render : Act ν GameError (Game κ W σ) Unit) g =
      ⟨last.mapError (·.map .render), { g with world := q.1, surface := q.2 },
        first.map .note ++ l⟩ := by
  simp [render, Act.bind_apply, Act.zoom_apply, Act.mapError, renderAll_apply, bounds_eq_extent, hc,
    h, Outcome.mapState, Outcome.after]

theorem render_spec {g : Game κ W σ}
    (hf : ((render : Act ν GameError (Game κ W σ) Unit) g).faulted = false) :
    let o := (render : Act ν GameError (Game κ W σ) Unit) g
    ∃ r : Pass κ W σ ν, r.kind = .render ∧ Consists g o.said [r] o.state.scene ∧
      o.result = r.result := by
  rcases hc : (Surface.clear (g.scene.extent ν) g.surface : σ × List ν) with ⟨s, first⟩
  rcases h : Act.each (Actor.render : κ → Act ν RenderError (W × σ) Unit) g.children (g.world, s)
    with ⟨last, q, l⟩
  rw [render_apply hc h] at hf ⊢
  have hlast : ∃ failure, last = Pass.ending failure := by
    rcases last with (e | f) | _
    · exact ⟨some e, rfl⟩
    · cases hf
    · exact ⟨none, rfl⟩
  obtain ⟨failure, rfl⟩ := hlast
  obtain ⟨called, hd⟩ := each_draws g.children h
  let r : Pass κ W σ ν :=
    ⟨.render (g.scene.extent ν) called failure, g.scene, first ++ notesOf l,
      ⟨g.data, q.1, q.2, g.ticks⟩⟩
  have hr : r.Made g.children := .render (x := g.scene) hc hd
  refine ⟨r, rfl, ⟨.single hr, by simp [r]⟩, ?_⟩
  cases failure <;> rfl

theorem render_broken {g : Game κ W σ}
    (hf : ((render : Act ν GameError (Game κ W σ) Unit) g).faulted = true) :
    let o := (render : Act ν GameError (Game κ W σ) Unit) g
    Breaks g.children g.scene (notesOf o.said) ∧ o.state.ticks = g.ticks := by
  rcases hc : (Surface.clear (g.scene.extent ν) g.surface : σ × List ν) with ⟨s, first⟩
  rcases h : Act.each (Actor.render : κ → Act ν RenderError (W × σ) Unit) g.children (g.world, s)
    with ⟨(e | f) | _, q, l⟩ <;> rw [render_apply hc h] at hf ⊢
  · cases hf
  · obtain ⟨called, hd⟩ := each_draws g.children h
    refine ⟨?_, rfl⟩
    rw [notesOf_append, notesOf_map_note]
    exact .render hc hd
  · cases hf

theorem tick_spec {g : Game κ W σ}
    (hf : ((tick : Act ν GameError (Game κ W σ) Unit) g).faulted = false) :
    let o := (tick : Act ν GameError (Game κ W σ) Unit) g
    ∃ u r : Pass κ W σ ν, [u, r].map Pass.kind = Pass.Kind.tick ∧
      Consists g o.said [u, r] o.state.scene ∧
      o.result = r.result ∧
      o.state.control = if u.stopAsked && g.grantsStop then g.control.halted else g.control := by
  have hp := update_passed (ν := ν) (ε := GameError) g
  obtain ⟨hu, hr⟩ := Act.faulted_of_bind hf
  obtain ⟨u, hku, hcu, hok, hctl⟩ := update_spec hu
  obtain ⟨r, hkr, hcr, hres⟩ := render_spec (hr () hok)
  intro o
  have ho : o = _ := Act.bind_apply_of_result hok _
  rw [ho]
  refine ⟨u, r, by simp [hku, hkr, Pass.Kind.tick], hcu.append hp.children_eq rfl hcr, hres, ?_⟩
  exact (render_played _).control_eq.trans hctl

theorem tick_broken {g : Game κ W σ}
    (hf : ((tick : Act ν GameError (Game κ W σ) Unit) g).faulted = true) :
    let o := (tick : Act ν GameError (Game κ W σ) Unit) g
    ∃ ps rest y, ps.map Pass.kind <+: Pass.Kind.tick ∧ BreaksOff g o.said ps rest y ∧
      o.state.ticks = y.ticks := by
  have hp := update_passed (ν := ν) (ε := GameError) g
  rcases Act.faulted_bind hf with ⟨hu, hst, hl⟩ | ⟨_, hok, hr⟩
  · obtain ⟨hb, ht⟩ := update_broken hu
    rw [← hl] at hb
    exact ⟨[], _, g.scene, List.nil_prefix, .at_once hb, (congrArg Game.ticks hst).trans ht⟩
  · obtain ⟨u, hku, hcu, _⟩ := update_spec (ν := ν) (by rw [Outcome.faulted, hok])
    obtain ⟨hb, ht⟩ := render_broken hr
    intro o
    have ho : o = _ := Act.bind_apply_of_result hok _
    rw [ho]
    refine ⟨[u], _, _, ?_, hcu.breaksOff hp.children_eq rfl (.at_once hb), ht⟩
    simp [hku, Pass.Kind.tick]

theorem ticksWhileRunning_consists (n : Nat) {g : Game κ W σ}
    (hf : ((ticksWhileRunning n : Act ν GameError (Game κ W σ) Nat) g).faulted = false) :
    let o := (ticksWhileRunning n : Act ν GameError (Game κ W σ) Nat) g
    ∃ ps k, Consists g o.said ps o.state.scene ∧
      ps.map Pass.kind = (List.replicate k Pass.Kind.tick).flatten := by
  induction n generalizing g with
  | zero => exact ⟨[], 0, .nil rfl, rfl⟩
  | succ n ih =>
    cases hr : g.isRunning with
    | false =>
      rw [ticksWhileRunning_of_not_running hr]
      exact ⟨[], 0, .nil rfl, rfl⟩
    | true =>
      have hp := tick_passed (ν := ν) g
      rw [ticksWhileRunning_succ hr] at hf ⊢
      obtain ⟨ht, hnext⟩ := Act.faulted_of_bind hf
      obtain ⟨u, r, hk, hc, _⟩ := tick_spec ht
      rw [Act.bind_apply]
      cases hres : ((tick : Act ν GameError (Game κ W σ) Unit) g).result with
      | error x => exact ⟨[u, r], 1, hc, by simpa using hk⟩
      | ok _ =>
        have hf' := hnext () hres
        rw [Act.map_faulted] at hf'
        obtain ⟨ps, k, hc', hk'⟩ := ih hf'
        refine ⟨[u, r] ++ ps, k + 1, hc.append hp.children_eq rfl hc', ?_⟩
        rw [List.map_append, hk, hk', List.replicate_succ, List.flatten_cons]

theorem ticksWhileRunning_broken (n : Nat) {g : Game κ W σ}
    (hf : ((ticksWhileRunning n : Act ν GameError (Game κ W σ) Nat) g).faulted = true) :
    let o := (ticksWhileRunning n : Act ν GameError (Game κ W σ) Nat) g
    ∃ ps rest y k, BreaksOff g o.said ps rest y ∧ o.state.ticks = y.ticks ∧
      ps.map Pass.kind <+: (List.replicate k Pass.Kind.tick).flatten := by
  induction n generalizing g with
  | zero => cases hf
  | succ n ih =>
    cases hr : g.isRunning with
    | false =>
      rw [ticksWhileRunning_of_not_running hr] at hf
      cases hf
    | true =>
      have hp := tick_passed (ν := ν) g
      rw [ticksWhileRunning_succ hr] at hf ⊢
      rcases Act.faulted_bind hf with ⟨ht, hst, hl⟩ | ⟨_, hok, hnext⟩
      · obtain ⟨ps, rest, y, hk, hb, hy⟩ := tick_broken ht
        rw [← hl] at hb
        exact ⟨ps, rest, y, 1, hb, (congrArg Game.ticks hst).trans hy, by simpa using hk⟩
      · obtain ⟨u, r, hk, hc, _⟩ := tick_spec (ν := ν) (by rw [Outcome.faulted, hok])
        rw [Act.map_faulted] at hnext
        obtain ⟨ps, rest, y, k, hb, hy, hk'⟩ := ih hnext
        rw [Act.bind_apply_of_result hok]
        refine ⟨[u, r] ++ ps, rest, y, k + 1, hc.breaksOff hp.children_eq rfl hb, hy, ?_⟩
        rw [List.map_append, hk, List.replicate_succ, List.flatten_cons]
        exact (List.prefix_append_right_inj _).2 hk'

theorem advance_consists {d : Duration} {g : Game κ W σ}
    (hf : ((advance d : Act ν GameError (Game κ W σ) Nat) g).faulted = false) :
    let o := (advance d : Act ν GameError (Game κ W σ) Nat) g
    ∃ ps k, Consists g o.said ps o.state.scene ∧
      ps.map Pass.kind = (List.replicate k Pass.Kind.tick).flatten := by
  cases hm : g.timer with
  | none =>
    rw [advance_of_no_timer hm]
    exact ⟨[], 0, .nil rfl, rfl⟩
  | some m =>
    rw [advance_apply hm] at hf ⊢
    by_cases hr : m.hasRoom d = true
    · rw [if_pos hr] at hf ⊢
      obtain ⟨ps, k, hc, hk⟩ := ticksWhileRunning_consists (ν := ν) (m.due d) hf
      exact ⟨ps, k, ⟨hc.enacts, by simpa [notesOf_dropNotice] using hc.noted⟩, hk⟩
    · rw [if_neg hr] at hf
      cases hf

theorem advance_broken {d : Duration} {g : Game κ W σ}
    (hf : ((advance d : Act ν GameError (Game κ W σ) Nat) g).faulted = true) :
    let o := (advance d : Act ν GameError (Game κ W σ) Nat) g
    ∃ ps rest y k, BreaksOff g o.said ps rest y ∧ o.state.ticks = y.ticks ∧
      ps.map Pass.kind <+: (List.replicate k Pass.Kind.tick).flatten := by
  cases hm : g.timer with
  | none =>
    rw [advance_of_no_timer hm] at hf
    cases hf
  | some m =>
    rw [advance_apply hm] at hf ⊢
    by_cases hr : m.hasRoom d = true
    · rw [if_pos hr] at hf ⊢
      obtain ⟨ps, rest, y, k, hb, hy, hk⟩ := ticksWhileRunning_broken (ν := ν) (m.due d) hf
      refine ⟨ps, rest, y, k, ⟨hb.enacts, hb.breaks, ?_⟩, hy, hk⟩
      simpa [notesOf_dropNotice] using hb.noted
    · rw [if_neg hr]
      refine ⟨[], [], g.scene, 0, ⟨.nil, .outside, ?_⟩, rfl, List.nil_prefix⟩
      exact notesOf_dropNotice m d

end Game

end Stagecraft
