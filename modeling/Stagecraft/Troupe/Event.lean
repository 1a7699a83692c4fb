import Stagecraft.Store.Request
import Stagecraft.Surface

/-!
Events: what a troupe's journal holds. Surfaces that keep a journal note every call that reaches
them, and players on a script note their turns.
-/

set_option autoImplicit false

namespace Stagecraft

inductive Event where
  | clear (r : Rect)
  | draw (dest : Rect) (width height : Nat)
  | update (name : String) (tick : Nat)
  | render (name : String)
  | data (name : String) (answer : Reply)
  | stopRequested (name : String) (yes : Bool)
  deriving DecidableEq

/-- A surface that keeps a journal, with or without a canvas behind it. -/
structure Screen where
  width : Nat
  height : Nat
  canvas : Option Canvas := none

namespace Screen

def ofCanvas (c : Canvas) : Screen := ⟨c.width, c.height, some c⟩

instance : Surface Screen Event where
  width := Screen.width
  height := Screen.height
  clear r s := ({ s with canvas := s.canvas.map (Canvas.clear · r) }, [.clear r])
  draw i dest s :=
    ({ s with canvas := s.canvas.map (Canvas.draw · i dest) }, [.draw dest i.width i.height])

end Screen

end Stagecraft
