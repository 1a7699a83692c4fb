import Stagecraft.Geometry.Point

/-!
The logical stage: positions are displacements from its centre with the second axis pointing up,
and pictures are placed by their top left corner with the second axis pointing down.
-/

set_option autoImplicit false

namespace Stagecraft.Stage

def width : Nat := 480

def height : Nat := 360

/-- Where the top left corner of a picture goes. Its horizontal offset centres it; there is no
vertical one. -/
def drawOrigin (position : Point) (xOffset : Scalar) : Point :=
  ⟨position.x + (.ofNat width - xOffset) / 2, .ofNat height / 2 - position.y⟩

end Stagecraft.Stage
