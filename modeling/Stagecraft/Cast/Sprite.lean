import Stagecraft.Cast.Costume
import Stagecraft.Error
import Stagecraft.Geometry.Stage
import Stagecraft.Surface

/-!
Sprites: a place on the stage and a list of costumes, one of which is worn.
-/

set_option autoImplicit false

namespace Stagecraft

structure Sprite where
  x : Scalar := 0
  y : Scalar := 0
  costumes : List Costume := []
  active : Nat := 0
  deriving DecidableEq

namespace Sprite

def place (x y : Scalar) : Sprite := { x, y }

def addCostume (s : Sprite) (c : Costume) : Sprite := { s with costumes := s.costumes ++ [c] }

/-- Puts on the costume with this number. A number without one is turned down, and the sprite stays
as it was. -/
def setActive (s : Sprite) (i : Nat) : Except RenderError Unit × Sprite :=
  if i < s.costumes.length then (.ok (), { s with active := i })
  else (.error (.costumeOutOfRange i s.costumes.length), s)

def next (s : Sprite) : Sprite :=
  if s.costumes.isEmpty then s
  else { s with active := (s.active + 1) % s.costumes.length }

def costume (s : Sprite) : Except RenderError Costume :=
  match s.costumes[s.active]? with
  | some c => .ok c
  | none =>
    if s.costumes.isEmpty then .error .noCostumes
    else .error (.costumeOutOfRange s.active s.costumes.length)

def drawPosition (s : Sprite) : Except RenderError Point := do
  return Stage.drawOrigin ⟨s.x, s.y⟩ (← s.costume).xOffset

variable {σ ν : Type} [Surface σ ν]

/-- Draws the worn costume in its own size; one whose image is still on its way is left out. -/
def render (s : Sprite) (g : Gallery) : Act ν RenderError σ Unit :=
  match s.costume with
  | .error e => Act.fail e
  | .ok c =>
    match g.get? c.image with
    | none => Act.log .trace s!"costume {s.active} not loaded, skipping draw"
    | some i =>
      Surface.drawAct i ⟨Stage.drawOrigin ⟨s.x, s.y⟩ c.xOffset, ⟨.ofNat i.width, .ofNat i.height⟩⟩

end Sprite

end Stagecraft
