import Stagecraft.Proofs.Game.Arming
import Stagecraft.Proofs.Number.Order

/-!
Hits of bouncers. They are told from positions and speeds alone, pass by pass and without the
blackboard (`Tracks.tally`). Main statement: one pass of sprites and bouncers adds its hits to the
number on the blackboard, and asks for a stop exactly when that comes to four or more
(`updateAll_struck`).
-/

set_option autoImplicit false

namespace Stagecraft

/-- Where a bouncer is, and the way that it makes in one step. -/
structure Track where
  x : Scalar
  speed : Scalar

namespace Track

/-- The next step leads beyond a wall. -/
def hits (t : Track) : Bool := decide (224 < t.x + t.speed ∨ t.x + t.speed < -224)

/-- One step. Who would get beyond a wall stands at it and turns round. -/
def step (t : Track) : Track :=
  if 224 < t.x + t.speed then ⟨224, -t.speed⟩
  else if t.x + t.speed < -224 then ⟨-224, -t.speed⟩
  else ⟨t.x + t.speed, t.speed⟩

end Track

def Tracks : Type := MemberId → Option Track

namespace Tracks

/-- One turn: how many walls are hit, and the tracks after it. -/
def turn (f : Tracks) (i : MemberId) : Nat × Tracks :=
  match f i with
  | none => (0, f)
  | some t => (t.hits.toNat, fun j => if i = j then some t.step else f j)

def pass (f : Tracks) : List MemberId → Nat × Tracks
  | [] => (0, f)
  | i :: rest => ((f.turn i).1 + ((f.turn i).2.pass rest).1, ((f.turn i).2.pass rest).2)

def toured (f : Tracks) (children : List MemberId) : Nat → Tracks
  | 0 => f
  | n + 1 => ((f.toured children n).pass children).2

/-- All hits in so many passes. -/
def tally (f : Tracks) (children : List MemberId) : Nat → Nat
  | 0 => 0
  | n + 1 => f.tally children n + ((f.toured children n).pass children).1

def bouncers (f : Tracks) (children : List MemberId) : Nat :=
  children.countP fun i => (f i).isSome

variable {f : Tracks} {t : Track} {i : MemberId}

theorem turn_of_some (h : f i = some t) :
    f.turn i = (t.hits.toNat, fun j => if i = j then some t.step else f j) := by
  rw [turn, h]
  rfl

theorem turn_of_none (h : f i = none) : f.turn i = (0, f) := by
  rw [turn, h]

/-- Nobody becomes something else by a turn. -/
theorem turn_isSome (f : Tracks) (i j : MemberId) : ((f.turn i).2 j).isSome = (f j).isSome := by
  cases h : f i with
  | none => rw [turn_of_none h]
  | some t =>
    rw [turn_of_some h]
    by_cases hij : i = j
    · subst hij
      simp [h]
    · simp [hij]

theorem bouncers_turn (f : Tracks) (i : MemberId) (children : List MemberId) :
    (f.turn i).2.bouncers children = f.bouncers children := by
  simp only [bouncers, turn_isSome]

theorem bouncers_pass (f : Tracks) (rest children : List MemberId) :
    (f.pass rest).2.bouncers children = f.bouncers children := by
  induction rest generalizing f with
  | nil => rfl
  | cons i rest ih => exact (ih _).trans (f.bouncers_turn i children)

theorem bouncers_toured (f : Tracks) (children : List MemberId) (k : Nat) :
    (f.toured children k).bouncers children = f.bouncers children := by
  induction k with
  | zero => rfl
  | succ k ih => exact (bouncers_pass _ children children).trans ih

theorem turn_le (f : Tracks) (i : MemberId) : (f.turn i).1 ≤ (f i).isSome.toNat := by
  cases h : f i with
  | none => exact Nat.le_of_eq (congrArg Prod.fst (turn_of_none h))
  | some t =>
    rw [turn_of_some h]
    simpa using t.hits.toNat_le

/-- In one pass every bouncer hits at most one wall a turn. -/
theorem pass_le (f : Tracks) (children : List MemberId) :
    (f.pass children).1 ≤ f.bouncers children := by
  induction children generalizing f with
  | nil => exact Nat.le_refl 0
  | cons i rest ih =>
    have hfirst := f.turn_le i
    have hrest := ih (f.turn i).2
    rw [bouncers_turn, bouncers] at hrest
    rw [pass, bouncers, List.countP_cons]
    cases hb : (f i).isSome <;> rw [hb] at hfirst <;> simp at hfirst ⊢ <;> omega

theorem tally_succ_le (f : Tracks) (children : List MemberId) (k : Nat) :
    f.tally children (k + 1) ≤ f.tally children k + f.bouncers children := by
  have hle := pass_le (f.toured children k) children
  rw [bouncers_toured] at hle
  exact Nat.add_le_add_left hle _

end Tracks

namespace Bouncer

/-- The blackboard holds this number of hits, or nothing where there were none. -/
structure Counts (d : Blackboard) (n : Nat) : Prop where
  absent : n = 0 → d.get? hits = none
  present : 0 < n → ∃ i : Int64, d.get? hits = some (.int i) ∧ i.toInt = n

variable {d : Blackboard} {n : Nat}

theorem Counts.int (h : Counts d n) : ((d.int? hits).getD 0).toInt = n := by
  rcases Nat.eq_zero_or_pos n with hn | hn
  · rw [Blackboard.int?, h.absent hn, hn]
    rfl
  · obtain ⟨i, hi, hin⟩ := h.present hn
    rw [Blackboard.int?, hi]
    exact hin

theorem Counts.plus? (h : Counts d n) :
    d.plus? hits 1 = if n + 1 < 2 ^ 63 then some (.ofInt (n + 1)) else none := by
  have hone : (1 : Int64).toInt = 1 := rfl
  rw [Blackboard.plus?, h.int, hone]
  by_cases hn : n + 1 < 2 ^ 63
  · rw [if_pos hn, if_pos (by omega)]
  · rw [if_neg hn, if_neg (by omega)]

theorem Counts.set (hn : n + 1 < 2 ^ 63) :
    Counts (d.set hits (.int (.ofInt (n + 1)))) (n + 1) := by
  refine ⟨nofun, fun _ => ⟨.ofInt (n + 1), d.get?_set_self _ _, ?_⟩⟩
  exact Int64.toInt_ofInt_of_le (by omega) (by omega)

theorem maxHits_le_iff (hn : n + 1 < 2 ^ 63) :
    maxHits ≤ Int64.ofInt (n + 1) ↔ 4 ≤ n + 1 := by
  have hfour : maxHits.toInt = 4 := rfl
  rw [Int64.le_iff_toInt_le, hfour, Int64.toInt_ofInt_of_le (by omega) (by omega)]
  omega

theorem Counts.lt (h : Counts d n) : n < 2 ^ 63 := by
  rcases Nat.eq_zero_or_pos n with hn | hn
  · omega
  · obtain ⟨i, _, hin⟩ := h.present hn
    have := i.toInt_lt
    omega

theorem Counts.of_ne {key : String} {v : Value} (h : Counts d n) (hk : key ≠ hits) :
    Counts (d.set key v) n := by
  have he : (d.set key v).get? hits = d.get? hits := d.get?_set_of_ne v hk
  exact ⟨fun hn => he.trans (h.absent hn), fun hn => he ▸ h.present hn⟩

/-- How far from the centre the walls are, in units of single precision. -/
def reach : Nat := 224 * single.one

theorem key_limit : limit.key = some (reach : Int) := by
  have h : limit.IsWhole (224 : Nat) := Binary.ofNat_isWhole (n := 224) (by decide)
  rw [h.key_eq, reach, Int.natCast_mul]

theorem limit_lt_abs_iff (x : Scalar) : limit < x.abs ↔ limit < x ∨ x < limit.neg := by
  cases hx : x.key with
  | none => cases x <;> simp [Binary.lt_iff, Binary.abs, Binary.key] at hx ⊢
  | some i =>
    rw [Binary.lt_iff_of_key key_limit (Binary.key_abs hx), Binary.lt_iff_of_key key_limit hx,
      Binary.lt_iff_of_key hx (Binary.key_neg key_limit)]
    omega

theorem clamp_of_below {x : Scalar} (h : x < limit.neg) : x.clamp limit.neg limit = limit.neg :=
  if_pos h

theorem clamp_of_above {x : Scalar} (h : limit < x) : x.clamp limit.neg limit = limit := by
  obtain ⟨_, i, _, hi, _⟩ := Binary.lt_iff.1 h
  have hbelow : ¬x < limit.neg := by
    rw [Binary.lt_iff_of_key key_limit hi] at h
    rw [Binary.lt_iff_of_key hi (Binary.key_neg key_limit)]
    omega
  rw [Binary.clamp, if_neg hbelow, if_pos h]

def track (b : Bouncer) : Track := ⟨b.sprite.x, b.speed⟩

theorem dress_track (tick : Nat) (b : Bouncer) : (b.dress tick).track = b.track := by
  unfold dress Sprite.next
  split
  · split <;> rfl
  · rfl

theorem walk_hits (b : Bouncer) : b.walk.1 = b.track.hits := by
  have hiff : limit < (b.sprite.x.add b.speed).abs ↔
      224 < b.track.x + b.track.speed ∨ b.track.x + b.track.speed < -224 := limit_lt_abs_iff _
  by_cases h : limit < (b.sprite.x.add b.speed).abs
  · rw [walk, if_pos h]
    exact (decide_eq_true (hiff.1 h)).symm
  · rw [walk, if_neg h]
    exact (decide_eq_false (mt hiff.2 h)).symm

theorem walk_track (b : Bouncer) : b.walk.2.track = b.track.step := by
  have hiff := limit_lt_abs_iff (b.sprite.x.add b.speed)
  unfold Track.step
  split
  · next h =>
    have hx : limit < b.sprite.x.add b.speed := h
    rw [walk, if_pos (hiff.2 (.inl hx)), clamp_of_above hx]
    rfl
  · next habove =>
    split
    · next h =>
      have hx : b.sprite.x.add b.speed < limit.neg := h
      rw [walk, if_pos (hiff.2 (.inr hx)), clamp_of_below hx]
      rfl
    · next hbelow =>
      rw [walk, if_neg fun hx => (hiff.1 hx).elim habove hbelow]
      rfl

section Update

variable {ν ε : Type} {b : Bouncer} (tick : Nat)

theorem update_of_free (hw : b.walk.1 = false) :
    (update tick : Act ν ε (Blackboard × Bouncer) Bool) (d, b) =
      ⟨.ok false, (d, b.walk.2.dress tick), []⟩ := by
  simp [update, Act.bind_apply, Act.map_apply, hw, Except.map]

theorem update_of_hit {m : Int64} (hw : b.walk.1 = true) (hm : d.plus? hits 1 = some m) :
    (update tick : Act ν ε (Blackboard × Bouncer) Bool) (d, b) =
      ⟨.ok (decide (maxHits ≤ m)), (d.set hits (.int m), b.walk.2.dress tick),
        [.log ⟨.info, s!"bounce {m.toInt} at tick {tick}"⟩]⟩ := by
  simp [update, countHit, Act.bind_apply, Act.map_apply, Act.zoom_apply, hw, hm, Except.map,
    Outcome.mapState, Outcome.after]

theorem update_of_full (hw : b.walk.1 = true) (hm : d.plus? hits 1 = none) :
    (update tick : Act ν ε (Blackboard × Bouncer) Bool) (d, b) =
      ⟨.error (.fault .addOverflow), (d, b.walk.2), []⟩ := by
  simp [update, countHit, Act.bind_apply, Act.zoom_apply, hw, hm, Outcome.mapState, Outcome.after]

end Update

end Bouncer

namespace Troupe

def isSprite (t : Troupe) (i : MemberId) : Prop := ∃ s, t.get? i = some (.sprite s)

def isBouncer (t : Troupe) (i : MemberId) : Bool :=
  match t.get? i with
  | some (.bouncer _) => true
  | _ => false

def Acrobats (t : Troupe) (children : List MemberId) : Prop :=
  ∀ i ∈ children, t.isBouncer i = true ∨ t.isSprite i

def tracks (t : Troupe) : Tracks := fun i =>
  match t.get? i with
  | some (.bouncer b) => some b.track
  | _ => none

theorem set_of_get? {t : Troupe} {i : MemberId} {m : Member} (h : t.get? i = some m) :
    t.set i m = t := by
  obtain ⟨hi, rfl⟩ := Array.getElem?_eq_some_iff.1 h
  have hm : t.members.setIfInBounds i.index t.members[i.index] = t.members := by
    simp [Array.setIfInBounds, hi]
  rw [set, hm]

theorem get?_set (t : Troupe) (i j : MemberId) {m m' : Member} (h : t.get? i = some m') :
    (t.set i m).get? j = if i = j then some m else t.get? j := by
  obtain ⟨hi, _⟩ := Array.getElem?_eq_some_iff.1 h
  have hij : i.index = j.index ↔ i = j := by cases i; cases j; simp
  simp only [get?, set, Array.getElem?_setIfInBounds, hij, hi, if_true]

section Turns

variable {m : Moment} {t t' : Troupe} {i : MemberId} {b : Bouncer}

theorem tracks_of_bouncer (h : t.get? i = some (.bouncer b)) : t.tracks i = some b.track := by
  simp only [tracks, h]

theorem tracks_of_sprite (h : t.isSprite i) : t.tracks i = none := by
  obtain ⟨s, hs⟩ := h
  simp only [tracks, hs]

theorem exists_of_isBouncer (h : t.isBouncer i = true) : ∃ b, t.get? i = some (.bouncer b) := by
  unfold isBouncer at h
  split at h
  · next b hb => exact ⟨b, hb⟩
  · cases h

/-- The same members are bouncers, and the same are sprites. -/
structure SameRoles (t t' : Troupe) : Prop where
  bouncer : ∀ i, t'.isBouncer i = t.isBouncer i
  sprite : ∀ i, t'.isSprite i ↔ t.isSprite i

theorem SameRoles.acrobats {children : List MemberId} (h : SameRoles t t')
    (hc : t.Acrobats children) : t'.Acrobats children := by
  intro i hi
  rw [h.bouncer, h.sprite]
  exact hc i hi

theorem SameRoles.trans {t'' : Troupe} (h : SameRoles t t') (h' : SameRoles t' t'') :
    SameRoles t t'' :=
  ⟨fun i => (h'.bouncer i).trans (h.bouncer i), fun i => (h'.sprite i).trans (h.sprite i)⟩

theorem sameRoles_set (h : t.get? i = some (.bouncer b)) (b' : Bouncer) :
    SameRoles t (t.set i (.bouncer b')) := by
  have hrole (j : MemberId) : (t.set i (.bouncer b')).isBouncer j = t.isBouncer j ∧
      ((t.set i (.bouncer b')).isSprite j ↔ t.isSprite j) := by
    have hget := t.get?_set i j (m := .bouncer b') h
    by_cases hij : i = j
    · subst hij
      rw [if_pos rfl] at hget
      simp [isBouncer, isSprite, hget, h]
    · rw [if_neg hij] at hget
      simp [isBouncer, isSprite, hget]
  exact ⟨fun j => (hrole j).1, fun j => (hrole j).2⟩

theorem tracks_set (h : t.get? i = some (.bouncer b)) (b' : Bouncer) :
    (t.set i (.bouncer b')).tracks = fun j => if i = j then some b'.track else t.tracks j := by
  funext j
  have hget := t.get?_set i j (m := .bouncer b') h
  by_cases hij : i = j
  · rw [if_pos hij] at hget ⊢
    exact tracks_of_bouncer hget
  · rw [if_neg hij] at hget ⊢
    simp only [tracks, hget]

theorem update_sprite {s : Sprite} (h : t.get? i = some (.sprite s)) (stop : Bool) :
    (Actor.update i stop : Act Event Empty (Moment × Troupe) Bool) (m, t) =
      ⟨.ok false, (m, t), []⟩ := by
  simp [Actor.update, Act.bind_apply, h, Act.zoom_apply, Member.update, Outcome.mapState,
    set_of_get? h]

theorem update_bouncer (h : t.get? i = some (.bouncer b)) (stop : Bool) :
    (Actor.update i stop : Act Event Empty (Moment × Troupe) Bool) (m, t) =
      ((Bouncer.update m.tick : Act Event Empty (Blackboard × Bouncer) Bool)
        (m.data, b)).mapState fun p => (⟨p.1, m.tick⟩, t.set i (.bouncer p.2)) := by
  simp [Actor.update, Act.bind_apply, h, Act.zoom_apply, Member.update, Outcome.mapState]

/-- Whether turns that make `h` hits after `n` earlier ones ask for a stop. -/
def asks (n h : Nat) : Bool := decide (0 < h ∧ 4 ≤ n + h)

/-- What comes of turns of the troupe `t` that make the hits in `r` after `n` earlier ones and leave
the tracks in `r`. They are broken off where the number no longer fits. -/
inductive Struck (t : Troupe) (n : Nat) (r : Nat × Tracks) (asked : Bool) :
    Outcome Event Empty (Moment × Troupe) Bool → Prop
  | counted {m : Moment} {t' : Troupe} {said : List (Entry Event)}
      (hd : Bouncer.Counts m.data (n + r.1)) (ht : t'.tracks = r.2) (hr : SameRoles t t') :
      Struck t n r asked ⟨.ok asked, (m, t'), said⟩
  | full {o : Outcome Event Empty (Moment × Troupe) Bool} (hn : 2 ^ 63 ≤ n + r.1)
      (ho : o.faulted = true) : Struck t n r asked o

theorem update_struck {n : Nat} (hi : t.isBouncer i = true ∨ t.isSprite i)
    (hd : Bouncer.Counts m.data n) (stop : Bool) :
    Struck t n (t.tracks.turn i) (asks n (t.tracks.turn i).1)
      ((Actor.update i stop : Act Event Empty (Moment × Troupe) Bool) (m, t)) := by
  rcases hi with hi | hs
  · obtain ⟨b, hb⟩ := exists_of_isBouncer hi
    rw [update_bouncer hb, Tracks.turn_of_some (tracks_of_bouncer hb), ← b.walk_hits]
    have htracks : (t.set i (.bouncer (b.walk.2.dress m.tick))).tracks =
        fun j => if i = j then some b.track.step else t.tracks j := by
      rw [tracks_set hb, Bouncer.dress_track, Bouncer.walk_track]
    have hroles := sameRoles_set hb (b.walk.2.dress m.tick)
    cases hw : b.walk.1 with
    | false =>
      rw [Bouncer.update_of_free m.tick hw]
      exact .counted hd htracks hroles
    | true =>
      have hp := hd.plus?
      by_cases hn : n + 1 < 2 ^ 63
      · rw [if_pos hn] at hp
        have hasks : asks n 1 = decide (Bouncer.maxHits ≤ Int64.ofInt (n + 1)) := by
          simp only [asks, decide_eq_decide, Bouncer.maxHits_le_iff hn]
          omega
        rw [Bouncer.update_of_hit m.tick hw hp]
        change Struck t n _ (asks n 1) _
        rw [hasks]
        exact .counted (Bouncer.Counts.set hn) htracks hroles
      · rw [if_neg hn] at hp
        rw [Bouncer.update_of_full m.tick hw hp]
        exact .full (Nat.not_lt.1 hn) rfl
  · rw [Tracks.turn_of_none (tracks_of_sprite hs)]
    obtain ⟨s, hs⟩ := hs
    rw [update_sprite hs]
    exact .counted hd rfl ⟨fun _ => rfl, fun _ => Iff.rfl⟩

theorem asks_of_le {n : Nat} (hn : n ≤ 3) (h : Nat) : asks n h = decide (4 ≤ n + h) := by
  simp only [asks, decide_eq_decide]
  omega

theorem asks_or (n h more : Nat) : (asks n h || asks (n + h) more) = asks n (h + more) := by
  simp only [asks, ← Bool.decide_or, decide_eq_decide]
  omega

theorem Struck.append {n h : Nat} {r : Nat × Tracks} {asked : Bool}
    {o : Outcome Event Empty (Moment × Troupe) Bool} (hr : SameRoles t t')
    (ho : Struck t' (n + h) r asked o) (said : List (Entry Event)) :
    Struck t n (h + r.1, r.2) asked (o.after said) := by
  cases ho with
  | counted hd ht hr' => exact .counted (Nat.add_assoc n h r.1 ▸ hd) ht (hr.trans hr')
  | full hn ho => exact .full (Nat.add_assoc n h r.1 ▸ hn) ho

theorem Struck.faulted_of_lt {n : Nat} {r : Nat × Tracks} {asked : Bool}
    {o : Outcome Event Empty (Moment × Troupe) Bool} (ho : Struck t n r asked o)
    (hn : n + r.1 < 2 ^ 63) : o.faulted = false := by
  cases ho with
  | counted => rfl
  | full hfull => exact absurd hn (Nat.not_lt.2 hfull)

theorem updateAll_struck {n : Nat} (children : List MemberId) (hc : t.Acrobats children)
    (hd : Bouncer.Counts m.data n) (stop : Bool) :
    Struck t n (t.tracks.pass children) (stop || asks n (t.tracks.pass children).1)
      ((Actor.updateAll children stop : Act Event Empty (Moment × Troupe) Bool) (m, t)) := by
  induction children generalizing t m n stop with
  | nil =>
    have hnone : (stop || asks n 0) = stop := by simp [asks]
    simp only [Tracks.pass, hnone]
    exact .counted hd rfl ⟨fun _ => rfl, fun _ => Iff.rfl⟩
  | cons i rest ih =>
    have hrest : t.Acrobats rest := fun j hj => hc j (List.mem_cons_of_mem _ hj)
    have hturn := update_struck (hc i List.mem_cons_self) hd stop
    rw [Actor.updateAll, Act.bind_apply]
    generalize (Actor.update i stop : Act Event Empty (Moment × Troupe) Bool) (m, t) = o
      at hturn ⊢
    cases hturn with
    | counted hd' ht hr =>
      have hlater := ih (hr.acrobats hrest) hd' (stop || asks n (t.tracks.turn i).1)
      rw [Bool.or_assoc, asks_or, ht] at hlater
      exact hlater.append hr _
    | full hn ho =>
      refine .full (Nat.le_trans hn (Nat.add_le_add_left (Nat.le_add_right _ _) n)) ?_
      rcases o with ⟨(e | f) | asked, q, l⟩
      · cases ho
      · rfl
      · cases ho

end Turns

section Draws

variable {σ : Type} [Surface σ Event]

/-- Drawing a member changes nobody. -/
theorem render_world (i : MemberId) (p : Troupe × σ) :
    ((Actor.render i : Act Event RenderError (Troupe × σ) Unit) p).state.1 = p.1 := by
  cases h : p.1.get? i with
  | none => simp [Actor.render, Act.bind_apply, h]
  | some m => simp [Actor.render, Act.bind_apply, h, Act.zoom_apply, Outcome.mapState]

theorem sprite_render_faulted (s : Sprite) (g : Gallery) (x : σ) :
    ((s.render g : Act Event RenderError σ Unit) x).faulted = false := by
  cases hc : s.costume with
  | error e => simp only [Sprite.render, hc]; rfl
  | ok c => cases hi : g.get? c.image <;> simp only [Sprite.render, hc, hi] <;> rfl

theorem member_render_faulted (m : Member) (g : Gallery) (x : σ) :
    ((m.render g : Act Event RenderError σ Unit) x).faulted = false := by
  cases m with
  | sprite s => exact sprite_render_faulted s g x
  | bouncer b => exact sprite_render_faulted b.sprite g x
  | player p =>
    cases hf : p.failure with
    | some e => simp only [Member.render, Player.render, hf]; rfl
    | none =>
      cases hs : p.sprite with
      | none => simp only [Member.render, Player.render, hf, hs]; rfl
      | some s =>
        simp only [Member.render, Player.render, hf, hs]
        exact sprite_render_faulted s g x

theorem render_faulted (i : MemberId) (p : Troupe × σ) :
    ((Actor.render i : Act Event RenderError (Troupe × σ) Unit) p).faulted = false := by
  cases h : p.1.get? i with
  | none => simp [Actor.render, Act.bind_apply, h, Outcome.faulted]
  | some m =>
    have hm := member_render_faulted m p.1.gallery p.2
    simpa [Actor.render, Act.bind_apply, h, Act.zoom_apply, Outcome.mapState, Outcome.faulted]
      using hm

theorem renderAll_faulted (children : List MemberId) (p : Troupe × σ) :
    ((Actor.renderAll children : Act Event RenderError (Troupe × σ) Unit) p).faulted = false := by
  rw [show p = (p.1, p.2) from rfl, Game.renderAll_apply, Outcome.after_faulted]
  generalize (p.1, (Surface.clear (Surface.bounds Event p.2) p.2 : σ × List Event).1) = q
  induction children generalizing q with
  | nil => rfl
  | cons i rest ih =>
    have hi := render_faulted i q
    rw [Act.each, Act.bind_apply]
    rcases h : (Actor.render i : Act Event RenderError (Troupe × σ) Unit) q with
      ⟨(e | f) | _, q', l⟩ <;> rw [h] at hi
    · rfl
    · cases hi
    · exact ih q'

end Draws

end Troupe

end Stagecraft
