import Stagecraft.Codec.Svg.Drawing
import Stagecraft.Number.Nearest
import Stagecraft.Raster.Image

/-!
Painting a drawing. A pixel has four rows of four samples, and as many of them as a shape holds
decide how much of the pixel it covers.
-/

set_option autoImplicit false

namespace Stagecraft.Svg

def multiplied (p : Pixel) : Pixel :=
  let scaled (c : UInt8) : UInt8 := .ofNat (nearest (c.toNat * p.alpha.toNat) 255)
  ⟨scaled p.red, scaled p.green, scaled p.blue, p.alpha⟩

/-- A product of two fractions of 255. -/
def part (n : Nat) : Nat := (n + 255) / 256

def combine (f : Nat → Nat → Nat) (p q : Pixel) : Pixel :=
  let g (c d : UInt8) : UInt8 := .ofNat (f c.toNat d.toNat)
  ⟨g p.red q.red, g p.green q.green, g p.blue q.blue, g p.alpha q.alpha⟩

/-- A scaled colour laid over another where it covers `coverage` parts in 255 of the pixel. An
opaque colour is mixed with the other one; one that is not is weakened first. -/
def laidOver (coverage : Nat) (under top : Pixel) : Pixel :=
  if top.alpha = 255 then
    combine (fun c d => part (c * (255 - coverage) + d * coverage)) under top
  else
    let weak := combine (fun c _ => part (c * coverage)) top top
    combine (fun c d => d + part (c * (255 - weak.alpha.toNat))) under weak

def divided (p : Pixel) : Pixel :=
  if p.alpha = 255 then p
  else if p.alpha = 0 then .transparent
  else
    let a := p.alpha.toFloat / 255
    let restored (c : UInt8) : UInt8 := (c.toFloat / a + 0.5).toUInt8
    ⟨restored p.red, restored p.green, restored p.blue, p.alpha⟩

def wholeOf (r : Rounding) : Scalar → Int
  | .finite a u _ => r.divide (Binary.signed a u) single.one
  | _ => 0

def placeRange : WordRange := ⟨-2147483520, 2147483520⟩

def maxPlace : Int := 2 ^ 31 - 1

/-- The places that a span touches, from the first to past the last. They have to be within
range. -/
def places? (lo hi : Scalar) : Option (Int × Int) :=
  let first := wholeOf .down lo
  let extent : Scalar := .ofUnits ((wholeOf .up hi - first) * single.one)
  let start := placeRange.clamp first
  let stop := start + max 1 (placeRange.clamp (wholeOf .up extent))
  if stop ≤ maxPlace then some (start, stop) else none

def samples : Nat := 4

def sampleAt (side : Nat) (x : Scalar) : Nat :=
  let fine := ((x.clamp 0 (.ofNat side)) * 256).toWord .down signedWord64
  ((fine + 32) / 64).toNat

def sampleOf (place : Int) : Int := Int.bmod (place * samples) (2 ^ 32)

structure Span where
  start : Nat
  stop : Nat

def Span.count (s : Span) (i : Nat) : Nat :=
  min s.stop (samples * i + samples) - max s.start (samples * i)

def Span.pixels (s : Span) : Nat × Nat := (s.start / samples, (s.stop + samples - 1) / samples)

def columns? (width : Nat) (lo hi : Scalar) : Option Span := do
  let (_, stop) ← places? lo hi
  if 0 < stop then some ⟨sampleAt width lo, sampleAt width hi⟩ else none

/-- The rows of samples in a span. One row is tried even where the last one comes first. -/
def rows? (height : Nat) (lo hi : Scalar) : Option Span := do
  let (start, stop) ← places? lo hi
  let first := max 0 (sampleOf start)
  let last := min (sampleOf stop) (samples * height)
  if 0 < stop ∧ 0 ≤ last then
    some ⟨max (sampleAt height lo) first.toNat,
      min (sampleAt height hi) (max last (first + 1)).toNat⟩
  else none

/-- Parts in 255 of a pixel that lie in some columns and rows. Sixteen times sixteen parts would be
one too many, so the last row of a pixel has one less. -/
def coverage (columns rows : Span) (y x : Nat) : Nat :=
  let across := columns.count x
  let down := rows.count y
  if across = samples then
    64 * down - (if rows.start ≤ samples * y + 3 ∧ samples * y + 3 < rows.stop then 1 else 0)
  else 16 * across * down

/-- A shape that is not wider or not higher than this is not painted. -/
def thinnest : Scalar := 1 / 4096

def largest : Scalar := .ofNat (2 ^ 128 - 2 ^ 104)

def farthest : Scalar := largest / 4

def Shape.placed (s : Shape) (p : Placement) : Shape :=
  { s with
    left := p.x s.left
    top := p.y s.top
    right := p.x s.right
    bottom := p.y s.bottom }

def Shape.isPaintable (s : Shape) : Bool :=
  thinnest < s.right - s.left && thinnest < s.bottom - s.top &&
    -farthest ≤ s.left && -farthest ≤ s.top && s.right ≤ farthest && s.bottom ≤ farthest

def paint (i : Image) (s : Shape) : Image :=
  match s.paint, columns? i.width s.left s.right, rows? i.height s.top s.bottom with
  | some p, some columns, some rows =>
    if s.isPaintable then
      let color := multiplied p
      let (left, right) := columns.pixels
      let (top, bottom) := rows.pixels
      i.modify ⟨left, right, top, bottom⟩ fun y x under =>
        laidOver (coverage columns rows y x) under color
    else i
  | _, _, _ => i

def maxWidth : Nat := (2 ^ 31 - 1) / 4

def Drawing.sides (d : Drawing) (resolution : Nat) : Nat × Nat :=
  let scale : Scalar := 1 / .ofNat resolution
  (max ((d.width * scale).toWord .halfAway word32).toNat 1,
    max ((d.height * scale).toWord .halfAway word32).toNat 1)

def Drawing.rasterize? (d : Drawing) (resolution : Nat) : Option Image :=
  let (width, height) := d.sides resolution
  let placement := (Placement.scaling (1 / .ofNat resolution)).after d.placement
  if maxWidth < width then none
  else some (((d.shapes.map (·.placed placement)).foldl paint (.blank width height)).map divided)

end Stagecraft.Svg
