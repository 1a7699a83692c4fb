/-!
Pixels with an opacity, and the rule by which one is laid over another.
-/

set_option autoImplicit false

namespace Stagecraft

structure Pixel where
  red : UInt8
  green : UInt8
  blue : UInt8
  alpha : UInt8
  deriving DecidableEq, Repr

namespace Pixel

def transparent : Pixel := ⟨0, 0, 0, 0⟩

instance : Inhabited Pixel := ⟨transparent⟩

def toBytes (p : Pixel) : List UInt8 := [p.red, p.green, p.blue, p.alpha]

def strength (c : UInt8) : Float32 := c.toFloat32 / 255

def channel (x : Float32) : UInt8 := (255 * x).toUInt8

/-- The pixel `top` over the pixel `under`. An invisible pixel changes nothing, an opaque one hides
what it covers, and otherwise the colours mix in proportion to what is seen of each. -/
def blend (under top : Pixel) : Pixel :=
  if top.alpha = 0 then under
  else if top.alpha = 255 then top
  else
    let s := strength top.alpha
    let u := strength under.alpha
    let whole := u + s - u * s
    let mix (c d : UInt8) : UInt8 :=
      channel ((strength c * s + strength d * u * (1 - s)) / whole)
    ⟨mix top.red under.red, mix top.green under.green, mix top.blue under.blue, channel whole⟩

@[simp] theorem blend_of_alpha_zero {under top : Pixel} (h : top.alpha = 0) :
    blend under top = under := by
  simp [blend, h]

@[simp] theorem blend_of_alpha_full {under top : Pixel} (h : top.alpha = 255) :
    blend under top = top := by
  simp [blend, h]

end Pixel

end Stagecraft
