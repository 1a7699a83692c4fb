import Stagecraft.Error
import Stagecraft.Store.Blackboard
import Stagecraft.Surface

/-!
Actors: what a game updates and renders. A child is known to its game by a key of type `κ`; what
stands behind all the keys is a world of type `W`, so that two keys can share what they stand for.
-/

set_option autoImplicit false

namespace Stagecraft

/-- What the children of an update pass share. They may write to both: a number that one of them
writes is what those after it take for the number of the pass. -/
structure Moment where
  data : Blackboard
  tick : Nat

class Actor (κ W ν : Type) where
  /-- One step of a child. It is told whether a stop was requested in the pass so far; its answer is
  whether it requests one. -/
  update : κ → (stopRequested : Bool) → Act ν Empty (Moment × W) Bool
  render {σ : Type} [Surface σ ν] : κ → Act ν RenderError (W × σ) Unit

namespace Actor

variable {κ W ν σ : Type} [Actor κ W ν] [Surface σ ν]

/-- One step of every child in turn. Each finds the moment as the one before left it, and a request
to stop keeps nobody from their turn. -/
def updateAll : List κ → Bool → Act ν Empty (Moment × W) Bool
  | [], stop => pure stop
  | c :: rest, stop => do
    let asked ← update c stop
    updateAll rest (stop || asked)

def renderAll (children : List κ) : Act ν RenderError (W × σ) Unit := do
  let (_, s) ← get
  Act.zoom Prod.snd (fun s p => (p.1, s)) (Surface.clearAct (Surface.bounds ν s))
  Act.each render children

end Actor

end Stagecraft
