import Stagecraft.Number.Power
import Stagecraft.Raster.Pixel

/-!
Images: rows of pixels from top to bottom. The view of an image is `get?`, the pixel at a column
and a row.
-/

set_option autoImplicit false

namespace Stagecraft

structure Image where
  width : Nat
  height : Nat
  pixels : Array Pixel
  size_pixels : pixels.size = width * height
  deriving DecidableEq

namespace Image

def get? (i : Image) (x y : Nat) : Option Pixel :=
  if x < i.width ∧ y < i.height then i.pixels[y * i.width + x]? else none

def get (i : Image) (x y : Nat) : Pixel := (i.get? x y).getD .transparent

def generate (width height : Nat) (f : Nat → Nat → Pixel) : Image :=
  ⟨width, height, .ofFn fun k : Fin (width * height) => f (k % width) (k / width),
    Array.size_ofFn⟩

def fill (width height : Nat) (p : Pixel) : Image :=
  ⟨width, height, .replicate (width * height) p, Array.size_replicate⟩

def blank (width height : Nat) : Image := fill width height .transparent

def square (side : Nat) (p : Pixel) : Image := fill side side p

instance : Inhabited Image := ⟨blank 0 0⟩

def toBytes (i : Image) : List UInt8 := i.pixels.toList.flatMap Pixel.toBytes

/-- Pixels from bytes, four at a time; a rest of fewer than four is left out. -/
def pixelsOfBytes : List UInt8 → List Pixel
  | r :: g :: b :: a :: rest => ⟨r, g, b, a⟩ :: pixelsOfBytes rest
  | _ => []

/-- The most bytes that the samples of an image may take when it is read from a file. -/
def maxBytes : Nat := 2 ^ 29

def ofPixels? (width height : Nat) (pixels : Array Pixel) : Option Image :=
  if h : pixels.size = width * height then some ⟨width, height, pixels, h⟩ else none

def map (f : Pixel → Pixel) (i : Image) : Image :=
  { i with pixels := i.pixels.map f, size_pixels := by rw [Array.size_map, i.size_pixels] }

/-- Replaces `n` neighbouring pixels that start at position `base + x`, the one at `base + x` by
what `f x` makes of it. -/
def modifyRun (f : Nat → Pixel → Pixel) (base x : Nat) :
    Nat → Array Pixel → Array Pixel
  | 0, a => a
  | n + 1, a => modifyRun f base (x + 1) n (a.modify (base + x) (f x))

theorem size_modifyRun (f : Nat → Pixel → Pixel) (base x n : Nat) (a : Array Pixel) :
    (modifyRun f base x n a).size = a.size := by
  induction n generalizing x a with
  | zero => rfl
  | succ n ih => rw [modifyRun, ih, Array.size_modify]

def modifyRows (f : Nat → Nat → Pixel → Pixel) (width x n y : Nat) :
    Nat → Array Pixel → Array Pixel
  | 0, a => a
  | m + 1, a => modifyRows f width x n (y + 1) m (modifyRun (f y) (y * width) x n a)

theorem size_modifyRows (f : Nat → Nat → Pixel → Pixel) (width x n y m : Nat)
    (a : Array Pixel) : (modifyRows f width x n y m a).size = a.size := by
  induction m generalizing y a with
  | zero => rfl
  | succ m ih => rw [modifyRows, ih, size_modifyRun]

structure Block where
  left : Nat
  right : Nat
  top : Nat
  bottom : Nat
  deriving DecidableEq, Repr

/-- Replaces every pixel of the image that lies in the block, the one at `x`, `y` by what `f y x`
makes of it. -/
def modify (i : Image) (b : Block) (f : Nat → Nat → Pixel → Pixel) : Image :=
  let right := min b.right i.width
  let bottom := min b.bottom i.height
  { i with
    pixels := modifyRows f i.width b.left (right - b.left) b.top (bottom - b.top) i.pixels
    size_pixels := by rw [size_modifyRows, i.size_pixels] }

end Image

end Stagecraft
