import Stagecraft.Proofs.Cast.Sharing

/-!
What sprites wear. Main statement: whatever is done with sprites and their clones, each of them wears
one of its costumes as long as it has any, goes through them in a circle, and fails to be drawn for
one reason only, that it has none (`run_wears`).
-/

set_option autoImplicit false

namespace Stagecraft

/-- Half the height is a whole number. -/
theorem Stage.drawOrigin_eq (x y xOffset : Scalar) :
    drawOrigin ⟨x, y⟩ xOffset = ⟨x + (480 - xOffset) / 2, 180 - y⟩ := by
  have hhalf : (.ofNat height / 2 : Scalar) = 180 := by decide +kernel
  rw [drawOrigin, hhalf]
  rfl

/-- What is done with sprites, which are numbered as they come. -/
inductive Fitting where
  | new
  | place (x y : Scalar)
  | addCostume (n : Nat) (c : Costume)
  | setActive (n i : Nat)
  | next (n : Nat)
  | move (n : Nat) (x y : Scalar)
  | clone (n : Nat)

namespace Sprite

/-- The worn costume is one of the costumes, or else the first one to come. -/
structure Fitted (s : Sprite) : Prop where
  lt : s.costumes ≠ [] → s.active < s.costumes.length
  zero : s.costumes = [] → s.active = 0

variable {s : Sprite} {i : Nat}

theorem setActive_of_lt (h : i < s.costumes.length) :
    s.setActive i = (.ok (), { s with active := i }) := if_pos h

theorem setActive_of_le (h : s.costumes.length ≤ i) :
    s.setActive i = (.error (.costumeOutOfRange i s.costumes.length), s) :=
  if_neg (Nat.not_lt.2 h)

theorem next_of_costumes (h : s.costumes ≠ []) :
    s.next = { s with active := (s.active + 1) % s.costumes.length } :=
  if_neg (mt List.isEmpty_iff.1 h)

theorem next_of_no_costumes (h : s.costumes = []) : s.next = s := if_pos (List.isEmpty_iff.2 h)

namespace Fitted

theorem place (x y : Scalar) : (place x y).Fitted := ⟨fun h => absurd rfl h, fun _ => rfl⟩

theorem addCostume (h : s.Fitted) (c : Costume) : (s.addCostume c).Fitted := by
  refine ⟨fun _ => ?_, fun hnone => absurd hnone (by simp [Sprite.addCostume])⟩
  -- a first costume is put on at once, as the number was zero without any
  have hle : s.active ≤ s.costumes.length := by
    by_cases hs : s.costumes = []
    · rw [h.zero hs]
      exact Nat.zero_le _
    · exact Nat.le_of_lt (h.lt hs)
  simp only [Sprite.addCostume, List.length_append, List.length_singleton]
  omega

theorem setActive (h : s.Fitted) (i : Nat) : (s.setActive i).2.Fitted := by
  by_cases hi : i < s.costumes.length
  · rw [setActive_of_lt hi]
    refine ⟨fun _ => hi, fun hnone => ?_⟩
    rw [show s.costumes = [] from hnone] at hi
    exact absurd hi (Nat.not_lt_zero i)
  · rw [setActive_of_le (Nat.not_lt.1 hi)]
    exact h

theorem next (h : s.Fitted) : s.next.Fitted := by
  by_cases hs : s.costumes = []
  · rw [next_of_no_costumes hs]
    exact h
  · rw [next_of_costumes hs]
    exact ⟨fun _ => Nat.mod_lt _ (List.length_pos_iff.2 hs), fun hnone => absurd hnone hs⟩

theorem move (h : s.Fitted) (x y : Scalar) : Fitted { s with x, y } := ⟨h.lt, h.zero⟩

theorem repeat_next (h : s.Fitted) (hs : s.costumes ≠ []) (n : Nat) :
    Nat.repeat Sprite.next n s = { s with active := (s.active + n) % s.costumes.length } := by
  induction n with
  | zero => rw [Nat.repeat, Nat.add_zero, Nat.mod_eq_of_lt (h.lt hs)]
  | succ n ih =>
    rw [Nat.repeat, ih, next_of_costumes (by exact hs)]
    simp only [Nat.mod_add_mod, Nat.add_assoc]

theorem costume_eq (h : s.Fitted) (hs : s.costumes ≠ []) :
    ∃ c, s.costumes[s.active]? = some c ∧ s.costume = .ok c := by
  have hc := List.getElem?_eq_getElem (h.lt hs)
  exact ⟨_, hc, by rw [costume, hc]⟩

end Fitted

theorem costume_of_no_costumes (h : s.costumes = []) : s.costume = .error .noCostumes := by
  simp [costume, h]

theorem drawPosition_of_costume {c : Costume} (h : s.costume = .ok c) :
    s.drawPosition = .ok ⟨s.x + (480 - c.xOffset) / 2, 180 - s.y⟩ := by
  rw [← Stage.drawOrigin_eq, drawPosition, h]
  rfl

theorem drawPosition_of_error {e : RenderError} (h : s.costume = .error e) :
    s.drawPosition = .error e := by
  rw [drawPosition, h]
  rfl

section Render

variable {σ ν : Type} [Surface σ ν] {g : Gallery} {c : Costume}

theorem render_of_error {e : RenderError} (h : s.costume = .error e) (a : σ) :
    (s.render g : Act ν RenderError σ Unit) a = ⟨.error (.error e), a, []⟩ := by
  simp only [render, h, Act.fail_apply]

theorem render_of_pending (h : s.costume = .ok c) (hi : g.get? c.image = none) (a : σ) :
    (s.render g : Act ν RenderError σ Unit) a =
      ⟨.ok (), a, [.log ⟨.trace, s!"costume {s.active} not loaded, skipping draw"⟩]⟩ := by
  simp only [render, h, hi, Act.log_apply]

theorem render_of_loaded {j : Image} (h : s.costume = .ok c) (hj : g.get? c.image = some j) :
    (s.render g : Act ν RenderError σ Unit) =
      Surface.drawAct j
        ⟨⟨s.x + (480 - c.xOffset) / 2, 180 - s.y⟩, ⟨.ofNat j.width, .ofNat j.height⟩⟩ := by
  simp only [render, h, hj, Stage.drawOrigin_eq]

end Render

/-- A sprite without costumes: nothing but its lack of costumes is reported, and no surface is
touched. -/
structure Bare (s : Sprite) : Prop where
  costume : s.costume = .error .noCostumes
  position : s.drawPosition = .error .noCostumes
  render : ∀ (σ ν : Type) [Surface σ ν] (g : Gallery) (a : σ),
    (s.render g : Act ν RenderError σ Unit) a = ⟨.error (.error .noCostumes), a, []⟩

/-- A sprite that wears the costume `c`: it makes one call to draw its image in its own size, or none
as long as the image is on its way. The image is centred on a stage 480 wide as far as its offset
says, and its top side is at the height of the sprite above the middle of 360. -/
structure Worn (s : Sprite) (c : Costume) : Prop where
  costume : s.costume = .ok c
  position : s.drawPosition = .ok ⟨s.x + (480 - c.xOffset) / 2, 180 - s.y⟩
  loaded : ∀ (σ ν : Type) [Surface σ ν] (g : Gallery) (j : Image), g.get? c.image = some j →
    (s.render g : Act ν RenderError σ Unit) =
      Surface.drawAct j
        ⟨⟨s.x + (480 - c.xOffset) / 2, 180 - s.y⟩, ⟨.ofNat j.width, .ofNat j.height⟩⟩
  pending : ∀ (σ ν : Type) [Surface σ ν] (g : Gallery) (a : σ), g.get? c.image = none →
    ∃ line, (s.render g : Act ν RenderError σ Unit) a = ⟨.ok (), a, [.log line]⟩

structure Wears (s : Sprite) : Prop where
  fitted : s.Fitted
  chosen : ∀ i, i < s.costumes.length → s.setActive i = (.ok (), { s with active := i })
  rejected : ∀ i, s.costumes.length ≤ i →
    s.setActive i = (.error (.costumeOutOfRange i s.costumes.length), s)
  circle : s.costumes ≠ [] → ∀ n,
    Nat.repeat next n s = { s with active := (s.active + n) % s.costumes.length }
  bare : s.costumes = [] → s.Bare
  worn : s.costumes ≠ [] → ∃ c, s.costumes[s.active]? = some c ∧ s.Worn c

theorem bare_of_no_costumes (h : s.costumes = []) : s.Bare where
  costume := costume_of_no_costumes h
  position := drawPosition_of_error (costume_of_no_costumes h)
  render _ _ _ _ := render_of_error (costume_of_no_costumes h)

theorem worn_of_costume {c : Costume} (h : s.costume = .ok c) : s.Worn c where
  costume := h
  position := drawPosition_of_costume h
  loaded _ _ _ _ _ hj := render_of_loaded h hj
  pending _ _ _ _ a hi := ⟨_, render_of_pending h hi a⟩

theorem Fitted.wears (h : s.Fitted) : s.Wears where
  fitted := h
  chosen _ := setActive_of_lt
  rejected _ := setActive_of_le
  circle := h.repeat_next
  bare := bare_of_no_costumes
  worn hs := by
    obtain ⟨c, hc, hok⟩ := h.costume_eq hs
    exact ⟨c, hc, worn_of_costume hok⟩

end Sprite

namespace Fitting

def after (sprites : List Sprite) : Fitting → List Sprite
  | .new => sprites ++ [{}]
  | .place x y => sprites ++ [.place x y]
  | .addCostume n c => sprites.modify n (·.addCostume c)
  | .setActive n i => sprites.modify n fun s => (s.setActive i).2
  | .next n => sprites.modify n Sprite.next
  | .move n x y => sprites.modify n fun s => { s with x, y }
  | .clone n => sprites ++ sprites[n]?.toList

def run (ops : List Fitting) : List Sprite := ops.foldl after []

variable {sprites : List Sprite}

theorem after_fitted (h : ∀ s ∈ sprites, s.Fitted) (op : Fitting) :
    ∀ s ∈ after sprites op, s.Fitted := by
  have hplaced (x y : Scalar) : ∀ s ∈ sprites ++ [Sprite.place x y], s.Fitted := by
    refine mem_append_toList (x := some (Sprite.place x y)) h fun s hs => ?_
    cases hs
    exact .place x y
  cases op with
  | new => exact hplaced 0 0
  | place x y => exact hplaced x y
  | addCostume n c => exact mem_modify h fun s hs => (h s hs).addCostume c
  | setActive n i => exact mem_modify h fun s hs => (h s hs).setActive i
  | next n => exact mem_modify h fun s hs => (h s hs).next
  | move n x y => exact mem_modify h fun s hs => (h s hs).move x y
  | clone n => exact mem_append_toList h fun s hs => h s (List.mem_of_getElem? hs)

theorem run_fitted (ops : List Fitting) : ∀ s ∈ run ops, s.Fitted := by
  have hrun (ops : List Fitting) (sprites : List Sprite) (h : ∀ s ∈ sprites, s.Fitted) :
      ∀ s ∈ ops.foldl after sprites, s.Fitted := by
    induction ops generalizing sprites with
    | nil => exact h
    | cons op rest ih => exact ih _ (after_fitted h op)
  exact hrun ops [] (List.forall_mem_nil _)

theorem after_of_rejected {n i : Nat} {s : Sprite} (hs : sprites[n]? = some s)
    (hi : s.costumes.length ≤ i) : after sprites (.setActive n i) = sprites := by
  refine List.ext_getElem? fun k => ?_
  rw [after, List.getElem?_modify]
  by_cases hk : n = k
  · subst hk
    simp [hs, Sprite.setActive_of_le hi]
  · cases sprites[k]? <;> simp [hk]

end Fitting

end Stagecraft
