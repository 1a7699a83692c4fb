import Stagecraft.Codec.Svg.Length
import Stagecraft.Number.Integral

/-!
The part of a plane that a drawing shows, and where that goes in the picture: both coordinates are
scaled and then moved.
-/

set_option autoImplicit false

namespace Stagecraft.Svg

structure Placement where
  scaleX : Scalar := 1
  scaleY : Scalar := 1
  moveX : Scalar := 0
  moveY : Scalar := 0

namespace Placement

def scaling (s : Scalar) : Placement := { scaleX := s, scaleY := s }

/-- Places by `inner` first. -/
def after (outer inner : Placement) : Placement :=
  ⟨outer.scaleX * inner.scaleX, outer.scaleY * inner.scaleY,
    outer.scaleX * inner.moveX + outer.moveX, outer.scaleY * inner.moveY + outer.moveY⟩

def x (p : Placement) (v : Scalar) : Scalar := v * p.scaleX + p.moveX

def y (p : Placement) (v : Scalar) : Scalar := v * p.scaleY + p.moveY

end Placement

structure ViewBox where
  left : Scalar
  top : Scalar
  width : Scalar
  height : Scalar

def listNumber? (s : List Char) : Option (Binary double × List Char) := do
  let (d, r) ← Decimal.front? (s.dropWhile Xml.isSpace)
  let number : Binary double := d.toBinary
  let r := r.dropWhile Xml.isSpace
  if number.isFinite then some (number, if r.head? = some ',' then r.drop 1 else r) else none

def isSide (x : Scalar) : Bool := x.isFinite && 0 < x

/-- Reads four numbers; what follows them counts for nothing. -/
def ViewBox.parse? (s : String) : Option ViewBox := do
  let (left, r) ← listNumber? s.toList
  let (top, r) ← listNumber? r
  let (width, r) ← listNumber? r
  let (height, _) ← listNumber? r
  let v : ViewBox := ⟨left.convert, top.convert, width.convert, height.convert⟩
  let right := v.left + v.width
  let bottom := v.top + v.height
  if isSide v.width ∧ isSide v.height ∧ right.isFinite ∧ bottom.isFinite ∧ v.left < right ∧
      v.top < bottom then some v
  else none

inductive Align where
  | low
  | middle
  | high
  deriving DecidableEq, Repr

def Align.ofName? : String → Option Align
  | "Min" => some .low
  | "Mid" => some .middle
  | "Max" => some .high
  | _ => none

def Align.move (a : Align) (start spare : Scalar) : Scalar :=
  match a with
  | .low => start
  | .middle => start + spare / 2
  | .high => start + spare

structure Fit where
  /-- None if the part is stretched. -/
  align : Option (Align × Align) := some (.middle, .middle)
  slice : Bool := false

def Fit.align? (s : String) : Option (Option (Align × Align)) :=
  match s.toList with
  | ['n', 'o', 'n', 'e'] => some none
  | ['x', a, b, c, 'Y', d, e, f] => do
    return some (← Align.ofName? (String.ofList [a, b, c]),
      ← Align.ofName? (String.ofList [d, e, f]))
  | _ => none

def Fit.parse? (s : String) : Option Fit := do
  let words := (s.splitToList Xml.isSpace).filter (· != "")
  let words := if words.head? = some "defer" then words.drop 1 else words
  match words with
  | [a] => return ⟨← Fit.align? a, false⟩
  | [a, "meet"] => return ⟨← Fit.align? a, false⟩
  | [a, "slice"] => return ⟨← Fit.align? a, true⟩
  | _ => none

def ViewBox.placement (v : ViewBox) (f : Fit) (width height : Scalar) : Placement :=
  let fitX := width / v.width
  let fitY := height / v.height
  match f.align with
  | none => ⟨fitX, fitY, -v.left * fitX, -v.top * fitY⟩
  | some (across, down) =>
    let s := if f.slice then (if fitX < fitY then fitY else fitX)
      else if fitY < fitX then fitY else fitX
    ⟨s, s, across.move (-v.left * s) (width - v.width * s),
      down.move (-v.top * s) (height - v.height * s)⟩

end Stagecraft.Svg
