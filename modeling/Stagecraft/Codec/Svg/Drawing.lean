import Stagecraft.Codec.Svg.Placement
import Stagecraft.Codec.Svg.Style
import Stagecraft.Codec.Xml.Document

/-!
Vector drawings made of filled rectangles, in the order in which they are painted.
-/

set_option autoImplicit false

namespace Stagecraft.Svg

open Xml

structure Shape where
  left : Scalar
  top : Scalar
  right : Scalar
  bottom : Scalar
  /-- Colour and opacity, not multiplied; none paints nothing. -/
  paint : Option Pixel

structure Drawing where
  width : Scalar
  height : Scalar
  shapes : List Shape
  placement : Placement

def length (as : List Attribute) (n : String) (missing : Length) : Length :=
  ((attribute? as n).bind Length.parse?).getD missing

/-- A rectangle in a drawing with these sides; both of its own sides are positive, and its ends are
within range. -/
def shape? (width height : Scalar) (style : Style) (as : List Attribute) : Option Shape :=
  let across n := (length as n .zero).units width
  let down n := (length as n .zero).units height
  let s : Shape := ⟨across "x", down "y", across "x" + across "width", down "y" + down "height",
    style.paint?⟩
  let reach := [s.left, s.top, s.right, s.bottom, s.right - s.left, s.bottom - s.top]
  if isSide (across "width") ∧ isSide (down "height") ∧ reach.all Binary.isFinite then some s
  else none

def maxNesting : Nat := 1024

def knownNames : List String :=
  ["a", "circle", "clipPath", "defs", "ellipse", "feBlend", "feColorMatrix",
   "feComponentTransfer", "feComposite", "feConvolveMatrix", "feDiffuseLighting",
   "feDisplacementMap", "feDistantLight", "feDropShadow", "feFlood", "feFuncA", "feFuncB",
   "feFuncG", "feFuncR", "feGaussianBlur", "feImage", "feMerge", "feMergeNode", "feMorphology",
   "feOffset", "fePointLight", "feSpecularLighting", "feSpotLight", "feTile", "feTurbulence",
   "filter", "g", "image", "line", "linearGradient", "marker", "mask", "path", "pattern",
   "polygon", "polyline", "radialGradient", "rect", "stop", "svg", "switch", "symbol",
   "textPath", "tref", "tspan"]

def isKnown (n : Name) : Bool := n.space == some svgSpace && knownNames.contains n.base

mutual

def isShallow (depth : Nat) : Node → Bool
  | .element n _ children =>
    depth ≤ maxNesting && (!isKnown n || areShallow (depth + 1) children)
  | .other => depth ≤ maxNesting

def areShallow (depth : Nat) : List Node → Bool
  | [] => true
  | c :: r => isShallow depth c && areShallow depth r

end

def containers : List String := ["svg", "g", "a"]

mutual

def shapes (width height : Scalar) (style : Style) : Node → List Shape
  | .element n as children =>
    let as := styled as
    let style := style.enter as
    if n.space != some svgSpace || attribute? as "display" == some "none" then []
    else if n.base == "rect" then (shape? width height style as).toList
    else if containers.contains n.base then shapesOf width height style children
    else []
  | .other => []

def shapesOf (width height : Scalar) (style : Style) : List Node → List Shape
  | [] => []
  | c :: r => shapes width height style c ++ shapesOf width height style r

end

def defaultSide : Binary double := 100

def rootSide (shown : Option Scalar) (l : Length) : Scalar :=
  match l.measure, shown with
  | .percent, none => (l.number / 100 * defaultSide).convert
  | .percent, some side => side * l.number.convert / 100
  | _, _ => l.units 0

def reach? (ends : List Scalar) : Option Scalar :=
  match ends with
  | [] => none
  | e :: es => some (es.foldl Binary.max e)

def root? (nodes : List Node) : Option Node :=
  nodes.find? fun
    | .element n _ _ => isKnown n
    | .other => false

/-- The drawing that an element makes. A side that is a part of nothing makes the drawing reach as
far as its shapes do. -/
def drawingOf? : Node → Option Drawing
  | .element n as children =>
    let across := length as "width" .whole
    let down := length as "height" .whole
    let shown := (attribute? as "viewBox").bind ViewBox.parse?
    let width := rootSide (shown.map (·.width)) across
    let height := rootSide (shown.map (·.height)) down
    if n.base = "svg" ∧ isSide width ∧ isSide height then
      match shown with
      | some v =>
        let fit := ((attribute? as "preserveAspectRatio").bind Fit.parse?).getD {}
        some ⟨width, height, shapes v.width v.height {} (.element n as children),
          v.placement fit width height⟩
      | none =>
        let all := shapes width height {} (.element n as children)
        let right := (reach? (all.map (·.right))).getD 0
        let bottom := (reach? (all.map (·.bottom))).getD 0
        if (across.measure = .percent ∨ down.measure = .percent) ∧ isSide right ∧
            isSide bottom then
          some ⟨right, bottom, all, {}⟩
        else some ⟨width, height, all, {}⟩
    else none
  | .other => none

def drawing? (s : List Char) : Except Fault (Option Drawing) := do
  let nodes ← Xml.parse? s
  return do
    let nodes ← nodes
    if areShallow 0 nodes then drawingOf? (← root? nodes) else none

end Stagecraft.Svg
