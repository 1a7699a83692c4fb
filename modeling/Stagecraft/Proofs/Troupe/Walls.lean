import Stagecraft.Proofs.Troupe.Hits

/-!
Bouncers between their walls. Main statement: a bouncer that starts between the walls with a finite
speed stays between them at that pace, whatever passes it is called in and whatever stands on the
blackboard; it stands at the wall that it hits and turns away from it, and hits the two walls by
turns (`course_roams`).
-/

set_option autoImplicit false

namespace Stagecraft

inductive Wall where
  | left
  | right
  deriving DecidableEq

namespace Wall

def other : Wall → Wall
  | .left => .right
  | .right => .left

def place : Wall → Scalar
  | .left => Bouncer.limit.neg
  | .right => Bouncer.limit

/-- A step of this length leads towards the wall. -/
def Ahead : Wall → Scalar → Prop
  | .left, v => v < 0
  | .right, v => 0 < v

variable {w w' : Wall} {v : Scalar} {j : Int}

theorem ahead_left_iff (hv : v.key = some j) : left.Ahead v ↔ j < 0 :=
  Binary.lt_iff_of_key hv Binary.key_zero_literal

theorem ahead_right_iff (hv : v.key = some j) : right.Ahead v ↔ 0 < j :=
  Binary.lt_iff_of_key Binary.key_zero_literal hv

theorem Ahead.exists_key (h : w.Ahead v) : ∃ j, v.key = some j := by
  cases w with
  | left =>
    obtain ⟨j, _, hj, _⟩ := Binary.lt_iff.1 h
    exact ⟨j, hj⟩
  | right =>
    obtain ⟨_, j, _, hj, _⟩ := Binary.lt_iff.1 h
    exact ⟨j, hj⟩

theorem Ahead.unique (h : w.Ahead v) (h' : w'.Ahead v) : w = w' := by
  obtain ⟨j, hj⟩ := h.exists_key
  cases w <;> cases w' <;> simp only [ahead_left_iff hj, ahead_right_iff hj] at h h'
  · rfl
  · omega
  · omega
  · rfl

theorem Ahead.neg (h : w.Ahead v) : w.other.Ahead v.neg := by
  obtain ⟨j, hj⟩ := h.exists_key
  have hneg := Binary.key_neg hj
  cases w with
  | left =>
    rw [ahead_left_iff hj] at h
    rw [other, ahead_right_iff hneg]
    omega
  | right =>
    rw [ahead_right_iff hj] at h
    rw [other, ahead_left_iff hneg]
    omega

end Wall

namespace Bouncer

theorem reach_lt : reach < single.limit := Binary.mul_one_lt_limit (by decide)

/-- The wall that the next step leads beyond. -/
def wall? (b : Bouncer) : Option Wall :=
  if limit < b.sprite.x + b.speed then some .right
  else if b.sprite.x + b.speed < limit.neg then some .left
  else none

variable {b : Bouncer} {w : Wall}

theorem wall?_right (h : b.wall? = some .right) : limit < b.sprite.x + b.speed := by
  unfold wall? at h
  split at h
  · assumption
  · split at h <;> cases h

theorem wall?_left (h : b.wall? = some .left) : b.sprite.x + b.speed < limit.neg := by
  unfold wall? at h
  split at h
  · cases h
  · split at h
    · assumption
    · cases h

theorem wall?_none (h : b.wall? = none) :
    ¬limit < b.sprite.x + b.speed ∧ ¬b.sprite.x + b.speed < limit.neg := by
  unfold wall? at h
  split at h
  · cases h
  · split at h
    · cases h
    · exact ⟨‹_›, ‹_›⟩

theorem walk_of_wall (h : b.wall? = some w) :
    b.walk = (true, ⟨{ b.sprite with x := w.place }, b.speed.neg⟩) := by
  cases w with
  | left =>
    have hx : b.sprite.x.add b.speed < limit.neg := wall?_left h
    rw [walk, if_pos ((limit_lt_abs_iff _).2 (.inr hx)), clamp_of_below hx, Wall.place]
  | right =>
    have hx : limit < b.sprite.x.add b.speed := wall?_right h
    rw [walk, if_pos ((limit_lt_abs_iff _).2 (.inl hx)), clamp_of_above hx, Wall.place]

theorem walk_of_no_wall (h : b.wall? = none) :
    b.walk = (false, { b with sprite := { b.sprite with x := b.sprite.x + b.speed } }) := by
  have hx : ¬limit < (b.sprite.x.add b.speed).abs := by
    rw [limit_lt_abs_iff]
    exact fun hor => hor.elim (wall?_none h).1 (wall?_none h).2
  rw [walk, if_neg hx]
  rfl

theorem dress_x (tick : Nat) (b : Bouncer) : (b.dress tick).sprite.x = b.sprite.x :=
  congrArg Track.x (b.dress_track tick)

theorem dress_speed (tick : Nat) (b : Bouncer) : (b.dress tick).speed = b.speed :=
  congrArg Track.speed (b.dress_track tick)

/-- A call to a bouncer: the number of the pass and the blackboard it finds. -/
structure Turn where
  tick : Nat
  data : Blackboard

def play (b : Bouncer) (t : Turn) : Outcome Event Empty (Blackboard × Bouncer) Bool :=
  (update t.tick : Act Event Empty (Blackboard × Bouncer) Bool) (t.data, b)

/-- The bouncer that a turn leaves, also one that is broken off since the hits no longer fit. -/
def after (b : Bouncer) (t : Turn) : Bouncer := (b.play t).state.2

def course (b : Bouncer) (turns : List Turn) : Bouncer := turns.foldl after b

def strikes : Bouncer → List Turn → List Wall
  | _, [] => []
  | b, t :: rest => b.wall?.toList ++ strikes (b.after t) rest

theorem after_walks (b : Bouncer) (t : Turn) :
    (b.after t).sprite.x = b.walk.2.sprite.x ∧ (b.after t).speed = b.walk.2.speed := by
  unfold after play
  cases hw : b.walk.1 with
  | false =>
    rw [update_of_free t.tick hw]
    exact ⟨dress_x t.tick _, dress_speed t.tick _⟩
  | true =>
    cases hm : t.data.plus? hits 1 with
    | some m =>
      rw [update_of_hit t.tick hw hm]
      exact ⟨dress_x t.tick _, dress_speed t.tick _⟩
    | none =>
      simp only [update_of_full t.tick hw hm, and_self]

theorem after_of_wall (h : b.wall? = some w) (t : Turn) :
    (b.after t).sprite.x = w.place ∧ (b.after t).speed = b.speed.neg := by
  have hwalk := b.after_walks t
  rwa [walk_of_wall h] at hwalk

theorem after_of_no_wall (h : b.wall? = none) (t : Turn) :
    (b.after t).sprite.x = b.sprite.x + b.speed ∧ (b.after t).speed = b.speed := by
  have hwalk := b.after_walks t
  rwa [walk_of_no_wall h] at hwalk

/-- A bouncer between the walls, with a speed that it can walk at. -/
structure Fit (b : Bouncer) : Prop where
  within : b.sprite.x.abs ≤ limit
  finite : b.speed.isFinite = true

theorem Fit.position (h : b.Fit) :
    ∃ i, b.sprite.x.key = some i ∧ i.natAbs ≤ reach ∧ b.sprite.x.isFinite = true ∧
      single.Representable i.natAbs := by
  obtain ⟨_, _, habs, _, _⟩ := Binary.le_iff.1 h.within
  obtain ⟨i, hi⟩ := Binary.exists_key_of_abs habs
  have hle := h.within
  rw [Binary.le_iff_of_key (Binary.key_abs hi) key_limit] at hle
  have hreach : i.natAbs ≤ reach := Int.ofNat_le.1 hle
  exact ⟨i, hi, hreach, Binary.representable_of_key hi (Nat.lt_of_le_of_lt hreach reach_lt)⟩

/-- The wall that is hit is the one that the speed points to: a rounded sum of a position between
the walls and a step the other way would not have come beyond it. -/
theorem Fit.ahead (h : b.Fit) (hw : b.wall? = some w) : w.Ahead b.speed := by
  obtain ⟨i, hi, hreach, hfin, hrep⟩ := h.position
  obtain ⟨j, hj⟩ := Binary.exists_key_of_isFinite h.finite
  cases w with
  | left =>
    rw [Wall.ahead_left_iff hj]
    refine Int.lt_of_not_ge fun hnonneg => ?_
    obtain ⟨k, hk, hik⟩ := Binary.le_key_add hfin h.finite hi hj hrep hnonneg
    have hbeyond := wall?_left hw
    rw [Binary.lt_iff_of_key hk (Binary.key_neg key_limit)] at hbeyond
    omega
  | right =>
    rw [Wall.ahead_right_iff hj]
    refine Int.lt_of_not_ge fun hnonpos => ?_
    obtain ⟨k, hk, hki⟩ := Binary.key_add_le hfin h.finite hi hj hrep hnonpos
    have hbeyond := wall?_right hw
    rw [Binary.lt_iff_of_key key_limit hk] at hbeyond
    omega

theorem abs_place_le (w : Wall) : w.place.abs ≤ limit := by
  have habs : w.place.abs = limit.abs := by
    cases w
    · exact Binary.abs_neg limit
    · rfl
  rw [habs, Binary.le_iff_of_key (Binary.key_abs key_limit) key_limit]
  omega

theorem Fit.after (h : b.Fit) (t : Turn) : (b.after t).Fit := by
  cases hw : b.wall? with
  | some w =>
    obtain ⟨hx, hspeed⟩ := after_of_wall hw t
    refine ⟨?_, ?_⟩
    · rw [hx]
      exact abs_place_le w
    · rw [hspeed, Binary.isFinite_neg]
      exact h.finite
  | none =>
    obtain ⟨hx, hspeed⟩ := after_of_no_wall hw t
    obtain ⟨i, hi, _, hfin, _⟩ := h.position
    obtain ⟨j, hj⟩ := Binary.exists_key_of_isFinite h.finite
    have hk := Binary.key_add hfin h.finite hi hj
    obtain ⟨hright, hleft⟩ := wall?_none hw
    rw [Binary.lt_iff_of_key key_limit hk] at hright
    rw [Binary.lt_iff_of_key hk (Binary.key_neg key_limit)] at hleft
    refine ⟨?_, hspeed ▸ h.finite⟩
    rw [hx, Binary.le_iff_of_key (Binary.key_abs hk) key_limit]
    omega

theorem abs_speed_after (b : Bouncer) (t : Turn) : (b.after t).speed.abs = b.speed.abs := by
  cases hw : b.wall? with
  | some w => rw [(after_of_wall hw t).2, Binary.abs_neg]
  | none => rw [(after_of_no_wall hw t).2]

theorem Fit.course (h : b.Fit) (turns : List Turn) : (b.course turns).Fit := by
  induction turns generalizing b with
  | nil => exact h
  | cons t rest ih => exact ih (h.after t)

theorem abs_speed_course (b : Bouncer) (turns : List Turn) :
    (b.course turns).speed.abs = b.speed.abs := by
  induction turns generalizing b with
  | nil => rfl
  | cons t rest ih => exact (ih (b.after t)).trans (b.abs_speed_after t)

theorem strikes_of_wall (h : b.wall? = some w) (t : Turn) (rest : List Turn) :
    b.strikes (t :: rest) = w :: (b.after t).strikes rest := by
  rw [strikes, h]
  rfl

theorem strikes_of_no_wall (h : b.wall? = none) (t : Turn) (rest : List Turn) :
    b.strikes (t :: rest) = (b.after t).strikes rest := by
  rw [strikes, h]
  rfl

/-- Until it hits a wall a bouncer does not turn, so the first one is ahead of it. -/
theorem Fit.first_strike (h : b.Fit) {turns : List Turn} (hw : (b.strikes turns)[0]? = some w) :
    w.Ahead b.speed := by
  induction turns generalizing b with
  | nil => cases hw
  | cons t rest ih =>
    cases hwall : b.wall? with
    | some v =>
      rw [strikes_of_wall hwall] at hw
      cases hw
      exact h.ahead hwall
    | none =>
      rw [strikes_of_no_wall hwall] at hw
      have hrest := ih (h.after t) hw
      rwa [(after_of_no_wall hwall t).2] at hrest

theorem Fit.strikes_alternate (h : b.Fit) {turns : List Turn} {k : Nat} {w' : Wall}
    (hw : (b.strikes turns)[k]? = some w) (hw' : (b.strikes turns)[k + 1]? = some w') :
    w' = w.other := by
  induction turns generalizing b k with
  | nil => cases hw
  | cons t rest ih =>
    cases hwall : b.wall? with
    | some v =>
      rw [strikes_of_wall hwall, List.getElem?_cons_succ] at hw'
      rw [strikes_of_wall hwall] at hw
      cases k with
      | zero =>
        cases hw
        have hnext := (h.after t).first_strike hw'
        rw [(after_of_wall hwall t).2] at hnext
        exact hnext.unique (h.ahead hwall).neg
      | succ k => exact ih (h.after t) hw hw'
    | none =>
      rw [strikes_of_no_wall hwall] at hw hw'
      exact ih (h.after t) hw hw'

/-- What becomes of a bouncer in any turns, and what comes of one more turn. -/
structure Roams (b : Bouncer) (turns : List Turn) : Prop where
  within : (b.course turns).sprite.x.abs ≤ limit
  pace : (b.course turns).speed.abs = b.speed.abs
  /-- A hit leaves the bouncer at the wall, on its way to the other one, and is counted. -/
  hit : ∀ w, (b.course turns).wall? = some w → ∀ t : Turn,
    (b.course (turns ++ [t])).sprite.x = w.place ∧
      w.other.Ahead (b.course (turns ++ [t])).speed ∧
      ∀ n, t.data.plus? hits 1 = some n →
        ((b.course turns).play t).state.1 = t.data.set hits (.int n)
  free : (b.course turns).wall? = none → ∀ t : Turn,
    (b.course (turns ++ [t])).sprite.x = (b.course turns).sprite.x + (b.course turns).speed ∧
      (b.course (turns ++ [t])).speed = (b.course turns).speed ∧
      ((b.course turns).play t).state.1 = t.data
  alternate : ∀ k w w', (b.strikes turns)[k]? = some w → (b.strikes turns)[k + 1]? = some w' →
    w' = w.other

theorem course_append (b : Bouncer) (turns : List Turn) (t : Turn) :
    b.course (turns ++ [t]) = (b.course turns).after t := by
  rw [course, List.foldl_append, List.foldl_cons, List.foldl_nil, course]

theorem course_roams (hx : b.sprite.x.abs ≤ limit) (hs : b.speed.isFinite = true)
    (turns : List Turn) : b.Roams turns := by
  have hfit : b.Fit := ⟨hx, hs⟩
  have hnow := hfit.course turns
  refine ⟨hnow.within, b.abs_speed_course turns, fun w hw t => ?_, fun hw t => ?_,
    fun k w w' => hfit.strikes_alternate⟩
  · obtain ⟨hplace, hspeed⟩ := after_of_wall hw t
    refine ⟨?_, ?_, fun n hn => ?_⟩
    · rw [course_append, hplace]
    · rw [course_append, hspeed]
      exact (hnow.ahead hw).neg
    · rw [play, update_of_hit t.tick (by rw [walk_of_wall hw]) hn]
  · obtain ⟨hmoved, hspeed⟩ := after_of_no_wall hw t
    refine ⟨?_, ?_, ?_⟩
    · rw [course_append, hmoved]
    · rw [course_append, hspeed]
    · rw [play, update_of_free t.tick (by rw [walk_of_no_wall hw])]

/-- A bouncer that makes more than half the way between the walls in one step. -/
def strider : Bouncer := ⟨{ x := 100 }, Binary.neg 300⟩

/-- The strider hits a wall in the second, the fourth and the sixth turn. In the second one the
blackboard holds as many hits as it can. -/
theorem course_roams_strider :
    let full : Turn := ⟨7, ({} : Blackboard).set hits (.int Int64.maxValue)⟩
    let turns : List Turn := [⟨0, {}⟩, full, ⟨2, {}⟩, ⟨3, {}⟩, ⟨0, {}⟩, ⟨5, {}⟩]
    strider.Roams turns ∧ strider.strikes turns = [.left, .right, .left] ∧
      (strider.course turns).sprite.x = limit.neg ∧ (strider.course turns).speed = 300 := by
  refine ⟨course_roams ?_ ?_ _, ?_⟩
  · decide +kernel
  · decide +kernel
  · decide +kernel

end Bouncer

end Stagecraft
