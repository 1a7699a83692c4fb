import Stagecraft.Act
import Stagecraft.Raster.Canvas

/-!
Surfaces: what a game clears and draws on. A surface may make notes of what is done to it.
-/

set_option autoImplicit false

namespace Stagecraft

class Surface (σ ν : Type) where
  width : σ → Nat
  height : σ → Nat
  /-- Makes a rectangle transparent; what lies outside of the surface is left out. -/
  clear : Rect → σ → σ × List ν
  draw : Image → Rect → σ → σ × List ν

namespace Surface

variable {σ ν ε : Type} [Surface σ ν]

def act (f : σ → σ × List ν) : Act ν ε σ Unit := fun s =>
  ⟨.ok (), (f s).1, (f s).2.map .note⟩

variable (ν) in
def bounds (s : σ) : Rect := .ofSides (width ν s) (height ν s)

def clearAct (r : Rect) : Act ν ε σ Unit := act (clear r)

def drawAct (i : Image) (dest : Rect) : Act ν ε σ Unit := act (draw i dest)

end Surface

instance {ν : Type} : Surface Canvas ν where
  width c := c.width
  height c := c.height
  clear r c := (Canvas.clear c r, [])
  draw i dest c := (Canvas.draw c i dest, [])

end Stagecraft
