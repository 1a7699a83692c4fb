import Stagecraft.Fault
import Stagecraft.Log.Line

/-!
Actions: steps on a state that may end early and that say things as they run. What was said and
the state reached are kept when an action ends early, so a caller can go on from there.
-/

set_option autoImplicit false

namespace Stagecraft

inductive Entry (ν : Type) where
  | log (line : Log.Line)
  | note (n : ν)
  deriving DecidableEq, Repr

inductive Halt (ε : Type) where
  | error (e : ε)
  | fault (f : Fault)
  deriving DecidableEq, Repr

def Halt.map {ε ε' : Type} (g : ε → ε') : Halt ε → Halt ε'
  | .error e => .error (g e)
  | .fault f => .fault f

structure Outcome (ν ε S α : Type) where
  result : Except (Halt ε) α
  state : S
  said : List (Entry ν)

/-- An action on states of type `S` with result `α` and errors `ε`; it makes notes of type `ν`. -/
def Act (ν ε S α : Type) : Type := S → Outcome ν ε S α

namespace Act

variable {ν ε ε' S T α β : Type}

/-- The second action starts where the first one stopped, unless that ended early. -/
def andThen (a : Act ν ε S α) (k : α → Act ν ε S β) : Act ν ε S β := fun s =>
  match a s with
  | ⟨.ok x, s', l⟩ =>
    let o := k x s'
    ⟨o.result, o.state, l ++ o.said⟩
  | ⟨.error h, s', l⟩ => ⟨.error h, s', l⟩

def mapResult (g : α → β) (a : Act ν ε S α) : Act ν ε S β := fun s =>
  let o := a s
  ⟨o.result.map g, o.state, o.said⟩

instance : Monad (Act ν ε S) where
  map := mapResult
  pure x := fun s => ⟨.ok x, s, []⟩
  bind := andThen

instance : MonadStateOf S (Act ν ε S) where
  get := fun s => ⟨.ok s, s, []⟩
  set s := fun _ => ⟨.ok (), s, []⟩
  modifyGet g := fun s => ⟨.ok (g s).1, (g s).2, []⟩

def fail (e : ε) : Act ν ε S α := fun s => ⟨.error (.error e), s, []⟩

def fault (f : Fault) : Act ν ε S α := fun s => ⟨.error (.fault f), s, []⟩

def say (e : Entry ν) : Act ν ε S Unit := fun s => ⟨.ok (), s, [e]⟩

def log (level : Log.Level) (text : String) : Act ν ε S Unit := say (.log ⟨level, text⟩)

def note (n : ν) : Act ν ε S Unit := say (.note n)

def zoom (view : S → T) (put : T → S → S) (a : Act ν ε T α) : Act ν ε S α := fun s =>
  let o := a (view s)
  ⟨o.result, put o.state s, o.said⟩

def mapError (g : ε → ε') (a : Act ν ε S α) : Act ν ε' S α := fun s =>
  let o := a s
  ⟨o.result.mapError (·.map g), o.state, o.said⟩

/-- The result of an action together with how it ended, so that the caller decides what follows. A
fault is not handed back. -/
def attempt (a : Act ν ε S α) : Act ν ε' S (Except ε α) := fun s =>
  let o := a s
  let result := match o.result with
    | .ok x => .ok (.ok x)
    | .error (.error e) => .ok (.error e)
    | .error (.fault f) => .error (.fault f)
  ⟨result, o.state, o.said⟩

def each {κ : Type} (a : κ → Act ν ε S Unit) : List κ → Act ν ε S Unit
  | [] => pure ()
  | k :: r => do a k; each a r

@[simp] theorem pure_apply (x : α) (s : S) :
    (pure x : Act ν ε S α) s = ⟨.ok x, s, []⟩ := rfl

theorem map_apply (g : α → β) (a : Act ν ε S α) (s : S) :
    (g <$> a) s = ⟨(a s).result.map g, (a s).state, (a s).said⟩ := rfl

instance : LawfulMonad (Act ν ε S) := LawfulMonad.mk' (Act ν ε S)
  (fun a => by
    funext s
    rcases h : a s with ⟨_ | _, _, _⟩ <;> simp [map_apply, h, Except.map])
  (fun x k => by
    funext s
    simp [bind, andThen, pure])
  (fun a k l => by
    funext s
    simp only [bind, andThen]
    rcases a s with ⟨_ | x, t, m⟩
    · rfl
    · simp only
      rcases k x t with ⟨_ | y, u, n⟩
      · rfl
      · simp [List.append_assoc])
  (fun _ _ => rfl)
  (fun _ _ => rfl)
  (fun _ _ => rfl)
  (fun g a => by
    funext s
    rcases h : a s with ⟨_ | _, _, _⟩ <;> simp [map_apply, bind, andThen, pure, h, Except.map])
  (fun _ _ => rfl)

end Act

end Stagecraft
