import Stagecraft.Geometry.Rect
import Stagecraft.Geometry.Stage
import Stagecraft.Raster.Scale

/-!
Canvases: images that can be cleared and drawn on. Rectangles are given in single precision, and
which pixels they mean is decided by rounding.
-/

set_option autoImplicit false

namespace Stagecraft

abbrev Canvas := Image

namespace Canvas

def stage : Canvas := Image.blank Stage.width Stage.height

def bounds (c : Canvas) : Rect := .ofSides c.width c.height

def touched (r : Rect) : Image.Block where
  left := (r.origin.x.toWord .down word32).toNat
  right := (r.farCorner.x.toWord .up word32).toNat
  top := (r.origin.y.toWord .down word32).toNat
  bottom := (r.farCorner.y.toWord .up word32).toNat

def clear (c : Canvas) (r : Rect) : Canvas :=
  match r.intersect (bounds c) with
  | none => c
  | some common => c.modify (touched common) fun _ _ _ => .transparent

def overlay (c : Canvas) (i : Image) (width height : Nat) (x y : Int) : Canvas :=
  let block : Image.Block :=
    ⟨x.toNat, min (x + width).toNat c.width, y.toNat, min (y + height).toNat c.height⟩
  let columns := i.columnsFor width height (-x).toNat (block.right - block.left)
  let rows := i.rowsFor width height (-y).toNat (block.bottom - block.top)
  c.modify block fun py px under =>
    under.blend (i.get (columns.getD (px - block.left) 0) (rows.getD (py - block.top) 0))

/-- Draws an image stretched to a rectangle. Corner and sides are rounded to whole pixels; an empty
rectangle or one that is not finite draws nothing. -/
def draw (c : Canvas) (i : Image) (dest : Rect) : Canvas :=
  if dest.isEmpty || !dest.isFinite then c
  else
    let x := dest.origin.x.toWord .halfAway signedWord64
    let y := dest.origin.y.toWord .halfAway signedWord64
    let width := (dest.size.x.toWord .halfAway word32).toNat
    let height := (dest.size.y.toWord .halfAway word32).toNat
    overlay c i width height x y

end Canvas

end Stagecraft
