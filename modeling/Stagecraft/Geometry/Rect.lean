import Stagecraft.Geometry.Point

/-!
Axis-aligned rectangles: a corner and an extent. A negative extent means the rectangle lies on the
other side of its corner.
-/

set_option autoImplicit false

namespace Stagecraft

structure Rect where
  origin : Point
  size : Point
  deriving DecidableEq

namespace Rect

def make (x y w h : Scalar) : Rect := ⟨⟨x, y⟩, ⟨w, h⟩⟩

def ofSides (width height : Nat) : Rect := make 0 0 (.ofNat width) (.ofNat height)

def farCorner (r : Rect) : Point := r.origin + r.size

def isEmpty (r : Rect) : Bool := decide (r.size.x ≤ 0) || decide (r.size.y ≤ 0)

def isFinite (r : Rect) : Bool := r.origin.isFinite && r.size.isFinite

def equal (r s : Rect) : Bool := r.origin.equal s.origin && r.size.equal s.size

def unfoldAxis (start extent : Scalar) : Scalar × Scalar :=
  if extent < 0 then (start + extent, -extent) else (start, extent)

def normalized (r : Rect) : Rect :=
  let h := unfoldAxis r.origin.x r.size.x
  let v := unfoldAxis r.origin.y r.size.y
  ⟨⟨h.1, v.1⟩, ⟨h.2, v.2⟩⟩

/-- The common part of two rectangles, none if it has no area. -/
def intersect (r s : Rect) : Option Rect :=
  let a := r.normalized
  let b := s.normalized
  let x₀ := a.origin.x.max b.origin.x
  let y₀ := a.origin.y.max b.origin.y
  let x₁ := a.farCorner.x.min b.farCorner.x
  let y₁ := a.farCorner.y.min b.farCorner.y
  if x₁ - x₀ ≤ 0 ∨ y₁ - y₀ ≤ 0 then none
  else some (make x₀ y₀ (x₁ - x₀) (y₁ - y₀))

end Rect

end Stagecraft
