import Stagecraft.Number.Integral
import Stagecraft.Raster.Image

/-!
Scaling by nearest sample: each pixel of the result is a pixel of the image, the one under its
centre. Positions are computed in single precision, each axis on its own.
-/

set_option autoImplicit false

namespace Stagecraft

def half : Scalar := 1 / 2

/-- Which of `old` places lies under the centre of place `i`, where `ratio` old places meet one new
place. -/
def placeUnder (old : Nat) (ratio : Scalar) (i : Nat) : Nat :=
  min (((.ofNat i + half) * ratio).toWord .down signedWord64).toNat (old - 1)

def nearestPlace (old new i : Nat) : Nat := placeUnder old (.ofNat old / .ofNat new) i

def nearestPlaces (old new start count : Nat) : Array Nat :=
  let ratio := .ofNat old / .ofNat new
  .ofFn fun k : Fin count => placeUnder old ratio (start + k)

namespace Image

def select (i : Image) (columns rows : Array Nat) : Image :=
  generate columns.size rows.size fun x y => i.get (columns.getD x 0) (rows.getD y 0)

def hasSides (i : Image) (width height : Nat) : Bool := i.width == width && i.height == height

/-- The columns of the image that `count` columns from `start` on show when it is stretched to the
given sides. An image that has them already is taken as it is. -/
def columnsFor (i : Image) (width height start count : Nat) : Array Nat :=
  if i.hasSides width height then .ofFn fun k : Fin count => start + k
  else nearestPlaces i.width width start count

def rowsFor (i : Image) (width height start count : Nat) : Array Nat :=
  if i.hasSides width height then .ofFn fun k : Fin count => start + k
  else nearestPlaces i.height height start count

def resize (i : Image) (width height : Nat) : Image :=
  i.select (i.columnsFor width height 0 width) (i.rowsFor width height 0 height)

def downscale (i : Image) (resolution : Nat) : Image :=
  if resolution ≤ 1 then i
  else i.resize (max (i.width / resolution) 1) (max (i.height / resolution) 1)

end Image

end Stagecraft
