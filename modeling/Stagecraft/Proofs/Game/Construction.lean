import Stagecraft.Proofs.Game.Control
import Stagecraft.Troupe.Basic

/-!
New games on registered surfaces. Main statement: a new game comes about exactly where the surface
is registered and the rate is not zero, and an error leaves the registry as it was unless the rate
is the cause of it (`createFrom_keeps_iff`). The surface is taken before the rate is looked at.
-/

set_option autoImplicit false

namespace Stagecraft

theorem Registry.get?_take_of_none {σ : Type} {r : Registry σ} {id : String}
    (h : r.get? id = none) (other : String) : (r.take id).2.get? other = r.get? other := by
  by_cases hne : id = other
  · subst hne
    rw [r.get?_take_self, h]
  · exact r.get?_take_of_ne hne

namespace Game

variable {κ W σ ν : Type} [Surface σ ν]

theorem createFrom_of_missing {r : Registry σ} {id : String} (h : r.get? id = none) (w : W)
    (c : Config) :
    (createFrom id w c : Act ν GameError (Registry σ) (Game κ W σ)) r =
      ⟨.error (.error (.surfaceNotFound id)), (r.take id).2, []⟩ := by
  simp [createFrom, Act.bind_apply, Registry.take, h, Outcome.after]

theorem createFrom_of_registered {r : Registry σ} {id : String} {s : σ} (h : r.get? id = some s)
    (w : W) (c : Config) :
    (createFrom id w c : Act ν GameError (Registry σ) (Game κ W σ)) r =
      ((create s w c : Act ν GameError Unit (Game κ W σ)) ()).mapState fun _ => (r.take id).2 := by
  simp [createFrom, Act.bind_apply, Act.zoom_apply, Registry.take, h, Outcome.after,
    Outcome.mapState]

def Keeps (r r' : Registry σ) : Prop := ∀ id, r'.get? id = r.get? id

omit [Surface σ ν] in
theorem not_keeps_take {r : Registry σ} {id : String} {s : σ} (h : r.get? id = some s) :
    ¬Keeps r (r.take id).2 := by
  intro hk
  have := hk id
  rw [r.get?_take_self, h] at this
  cases this

/-- How an attempt to make a game on a registered surface ends, and what is left in the registry. -/
inductive Founded (id : String) (c : Config) (r : Registry σ) :
    Outcome ν GameError (Registry σ) (Game κ W σ) → Prop
  | missing {l : List (Entry ν)} {r' : Registry σ} (h : r.get? id = none) (hk : Keeps r r') :
      Founded id c r ⟨.error (.error (.surfaceNotFound id)), r', l⟩
  | refused {s : σ} {l : List (Entry ν)} (h : r.get? id = some s) (hc : c.tickRate.toNat = 0) :
      Founded id c r ⟨.error (.error .invalidTickRate), (r.take id).2, l⟩
  | made {s : σ} {g : Game κ W σ} {l : List (Entry ν)} (h : r.get? id = some s)
      (hc : 0 < c.tickRate.toNat) (hg : g.surface = s) :
      Founded id c r ⟨.ok g, (r.take id).2, l⟩

theorem createFrom_founded (id : String) (w : W) (c : Config) (r : Registry σ) :
    Founded id c r ((createFrom id w c : Act ν GameError (Registry σ) (Game κ W σ)) r) := by
  cases h : r.get? id with
  | none =>
    rw [createFrom_of_missing h]
    exact .missing h (Registry.get?_take_of_none h)
  | some s =>
    rw [createFrom_of_registered h]
    by_cases hc : 0 < c.tickRate.toNat
    · simp only [create, hc, dif_pos, Act.bind_apply]
      exact .made h hc rfl
    · simp only [create, hc, dif_neg, not_false_eq_true]
      exact .refused h (Nat.eq_zero_of_not_pos hc)

/-- An error leaves the registry as it was exactly where the rate is not its cause. Where it is,
the surface is lost, and no other one. -/
theorem createFrom_keeps_iff (id : String) (w : W) (c : Config) (r : Registry σ) :
    let o := (createFrom id w c : Act ν GameError (Registry σ) (Game κ W σ)) r
    (o.succeeded = true ↔ (r.get? id).isSome = true ∧ 0 < c.tickRate.toNat) ∧
      ((∀ e, o.result = .error (.error e) → Keeps r o.state) ↔
        (r.get? id = none ∨ 0 < c.tickRate.toNat)) ∧
      (∀ e, o.result = .error (.error e) →
        e = .surfaceNotFound id ∧ r.get? id = none ∨
          e = .invalidTickRate ∧ c.tickRate.toNat = 0 ∧ o.state.get? id = none) ∧
      (∀ g, o.result = .ok g → r.get? id = some g.surface ∧ o.state.get? id = none) ∧
      o.faulted = false ∧ ∀ other, id ≠ other → o.state.get? other = r.get? other := by
  have ho := createFrom_founded (κ := κ) (ν := ν) id w c r
  dsimp only
  generalize (createFrom id w c : Act ν GameError (Registry σ) (Game κ W σ)) r = o at ho ⊢
  cases ho with
  | missing h hk =>
    refine ⟨by simp [Outcome.succeeded, h], by simp [h, hk], ?_, ?_, rfl, fun other _ => hk other⟩
    · rintro e ⟨⟩
      exact .inl ⟨rfl, h⟩
    · rintro g ⟨⟩
  | refused h hc =>
    refine ⟨by simp [Outcome.succeeded, hc], ?_, ?_, ?_, rfl, fun _ => r.get?_take_of_ne⟩
    · simp [h, hc, not_keeps_take h]
    · rintro e ⟨⟩
      exact .inr ⟨rfl, hc, r.get?_take_self id⟩
    · rintro g ⟨⟩
  | made h hc hg =>
    refine ⟨by simp [Outcome.succeeded, h, hc], by simp [hc], ?_, ?_, rfl,
      fun _ => r.get?_take_of_ne⟩
    · rintro e ⟨⟩
    · rintro g ⟨⟩
      exact ⟨hg ▸ h, r.get?_take_self id⟩

def stage : Registry Screen := (({} : Registry Screen).insert "stage" { width := 4, height := 3 }).2

/-- A rate of zero loses the surface, so that a second attempt does not find it. -/
theorem createFrom_loses_surface :
    let o := (createFrom "stage" {} { tickRate := 0 } :
      Act Event GameError (Registry Screen) (Game MemberId Troupe Screen)) stage
    let again := (createFrom "stage" {} {} :
      Act Event GameError (Registry Screen) (Game MemberId Troupe Screen)) o.state
    (stage.get? "stage").isSome = true ∧ o.result = .error (.error .invalidTickRate) ∧
      o.state.get? "stage" = none ∧
      again.result = .error (.error (.surfaceNotFound "stage")) := by
  have h : stage.get? "stage" = some { width := 4, height := 3 } := by
    simp [stage, Registry.insert, Registry.get?]
  have hn := stage.get?_take_self "stage"
  intro o again
  have ho : o = ⟨.error (.error .invalidTickRate), (stage.take "stage").2, []⟩ :=
    createFrom_of_registered h _ _
  refine ⟨by rw [h]; rfl, by rw [ho], by rw [ho]; exact hn, ?_⟩
  rw [show again = _ from createFrom_of_missing (by rw [ho]; exact hn) _ _]

end Game

end Stagecraft
