import Stagecraft.Raster.Image
import Stagecraft.Raster.Quantize

/-!
Images by the numbers of their colours in a palette of at most 256, one of which may be invisible.
Every other colour is opaque.
-/

set_option autoImplicit false

namespace Stagecraft

structure Indexed where
  palette : List Pixel
  indices : List UInt8
  clear : Option UInt8

namespace Indexed

def maxColors : Nat := 256

def hard (p : Pixel) : Pixel := if p.alpha = 0 then p else { p with alpha := 255 }

def distinct (pixels : List Pixel) : List Pixel :=
  (pixels.foldl (fun seen p =>
    if maxColors < seen.length || seen.contains p then seen else p :: seen) []).reverse

/-- The image of some pixels. The last of the invisible colours is the one that stays so; with more
colours than a palette holds, each is replaced by one that was learned. -/
def ofPixels (pixels : Array Pixel) : Indexed :=
  let pixels := pixels.map hard
  let last := pixels.toList.reverse.find? (·.alpha == 0)
  let colors := distinct pixels.toList
  if colors.length ≤ maxColors then
    let index (p : Pixel) : UInt8 := .ofNat (colors.idxOf p)
    ⟨colors, pixels.toList.map index, last.map index⟩
  else
    let palette := Quantize.Palette.ofColors pixels
    let index (p : Pixel) : UInt8 := .ofNat (palette.index p)
    ⟨palette.colors.toList, pixels.toList.map index, last.map index⟩

end Indexed

end Stagecraft
