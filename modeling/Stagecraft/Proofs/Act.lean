import Stagecraft.Act

/-!
Outcomes of actions: what a composed action comes to, in terms of its parts. With these equations
a step of a game is opened once, and its parts are then known by their own statements.
-/

set_option autoImplicit false

namespace Stagecraft

namespace Outcome

variable {ν ε S T α : Type}

def succeeded (o : Outcome ν ε S α) : Bool :=
  match o.result with
  | .ok _ => true
  | .error _ => false

def faulted (o : Outcome ν ε S α) : Bool :=
  match o.result with
  | .error (.fault _) => true
  | _ => false

theorem result_of_succeeded {o : Outcome ν ε S α} (h : o.succeeded = true) :
    ∃ x, o.result = .ok x := by
  rcases o with ⟨_ | x, _, _⟩
  · cases h
  · exact ⟨x, rfl⟩

theorem result_eq_ok {o : Outcome ν ε S α} {x : α} (h : o.result.toOption = some x) :
    o.result = .ok x := by
  rcases o with ⟨_ | y, _, _⟩ <;> cases h
  rfl

def mapState (f : S → T) (o : Outcome ν ε S α) : Outcome ν ε T α := ⟨o.result, f o.state, o.said⟩

@[simp] theorem mapState_result (f : S → T) (o : Outcome ν ε S α) :
    (o.mapState f).result = o.result := rfl

def after (l : List (Entry ν)) (o : Outcome ν ε S α) : Outcome ν ε S α :=
  ⟨o.result, o.state, l ++ o.said⟩

@[simp] theorem after_result (l : List (Entry ν)) (o : Outcome ν ε S α) :
    (o.after l).result = o.result := rfl

@[simp] theorem after_state (l : List (Entry ν)) (o : Outcome ν ε S α) :
    (o.after l).state = o.state := rfl

@[simp] theorem after_said (l : List (Entry ν)) (o : Outcome ν ε S α) :
    (o.after l).said = l ++ o.said := rfl

@[simp] theorem after_faulted (l : List (Entry ν)) (o : Outcome ν ε S α) :
    (o.after l).faulted = o.faulted := rfl

@[simp] theorem after_nil (o : Outcome ν ε S α) : o.after [] = o := rfl

theorem mapState_after (f : S → T) (l : List (Entry ν)) (o : Outcome ν ε S α) :
    (o.after l).mapState f = (o.mapState f).after l := rfl

end Outcome

namespace Act

variable {ν ε ε' S T α β : Type}

theorem bind_apply (a : Act ν ε S α) (k : α → Act ν ε S β) (s : S) :
    (a >>= k) s =
      match (a s).result with
      | .ok x => (k x (a s).state).after (a s).said
      | .error h => ⟨.error h, (a s).state, (a s).said⟩ := by
  rcases h : a s with ⟨_ | x, t, l⟩ <;> simp [bind, andThen, h, Outcome.after]

theorem bind_apply_of_result {a : Act ν ε S α} {s : S} {x : α} (h : (a s).result = .ok x)
    (k : α → Act ν ε S β) : (a >>= k) s = (k x (a s).state).after (a s).said := by
  rw [bind_apply, h]

/-- Neither part of a sequence without a fault faults. -/
theorem faulted_of_bind {a : Act ν ε S α} {k : α → Act ν ε S β} {s : S}
    (h : ((a >>= k) s).faulted = false) :
    (a s).faulted = false ∧ ∀ x, (a s).result = .ok x → (k x (a s).state).faulted = false := by
  rw [bind_apply] at h
  cases hr : (a s).result with
  | error y =>
    rw [hr] at h
    refine ⟨?_, nofun⟩
    cases y with
    | error e => rw [Outcome.faulted, hr]
    | fault f => cases h
  | ok y =>
    rw [hr] at h
    refine ⟨by rw [Outcome.faulted, hr], ?_⟩
    rintro x ⟨⟩
    exact h

theorem faulted_bind {a : Act ν ε S α} {k : α → Act ν ε S β} {s : S}
    (h : ((a >>= k) s).faulted = true) :
    (a s).faulted = true ∧ ((a >>= k) s).state = (a s).state ∧ ((a >>= k) s).said = (a s).said ∨
      ∃ x, (a s).result = .ok x ∧ (k x (a s).state).faulted = true := by
  rw [bind_apply] at h ⊢
  cases hr : (a s).result with
  | error y =>
    rw [hr] at h
    refine .inl ⟨?_, rfl, rfl⟩
    cases y with
    | error e => cases h
    | fault f => rw [Outcome.faulted, hr]
  | ok x =>
    rw [hr] at h
    exact .inr ⟨x, rfl, h⟩

@[simp] theorem get_apply (s : S) : (get : Act ν ε S S) s = ⟨.ok s, s, []⟩ := rfl

@[simp] theorem set_apply (s t : S) : (set t : Act ν ε S PUnit) s = ⟨.ok (), t, []⟩ := rfl

@[simp] theorem modify_apply (f : S → S) (s : S) :
    (modify f : Act ν ε S PUnit) s = ⟨.ok (), f s, []⟩ := rfl

@[simp] theorem fail_apply (e : ε) (s : S) :
    (fail e : Act ν ε S α) s = ⟨.error (.error e), s, []⟩ := rfl

@[simp] theorem fault_apply (f : Fault) (s : S) :
    (fault f : Act ν ε S α) s = ⟨.error (.fault f), s, []⟩ := rfl

@[simp] theorem log_apply (level : Log.Level) (text : String) (s : S) :
    (log level text : Act ν ε S Unit) s = ⟨.ok (), s, [.log ⟨level, text⟩]⟩ := rfl

theorem zoom_apply (view : S → T) (put : T → S → S) (a : Act ν ε T α) (s : S) :
    zoom view put a s = (a (view s)).mapState (put · s) := rfl

theorem mapError_apply (g : ε → ε') (a : Act ν ε S α) (s : S) :
    mapError g a s =
      match a s with
      | ⟨.ok x, t, l⟩ => ⟨.ok x, t, l⟩
      | ⟨.error h, t, l⟩ => ⟨.error (h.map g), t, l⟩ := by
  unfold mapError
  rcases a s with ⟨_ | _, _, _⟩ <;> rfl

@[simp] theorem map_state (g : α → β) (a : Act ν ε S α) (s : S) :
    ((g <$> a) s).state = (a s).state := rfl

@[simp] theorem map_succeeded (g : α → β) (a : Act ν ε S α) (s : S) :
    ((g <$> a) s).succeeded = (a s).succeeded := by
  rcases h : a s with ⟨_ | _, _, _⟩ <;> simp [map_apply, h, Outcome.succeeded, Except.map]

@[simp] theorem map_faulted (g : α → β) (a : Act ν ε S α) (s : S) :
    ((g <$> a) s).faulted = (a s).faulted := by
  rcases h : a s with ⟨(_ | _) | _, _, _⟩ <;> simp [map_apply, h, Outcome.faulted, Except.map]

end Act

end Stagecraft
