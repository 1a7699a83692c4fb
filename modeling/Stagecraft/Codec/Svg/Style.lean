import Stagecraft.Codec.Svg.Color
import Stagecraft.Codec.Svg.Length
import Stagecraft.Codec.Xml.Element

/-!
How elements of a drawing are shown: attributes and declarations about their fill and about whether
they are seen. An element hands on what it says to those in it.
-/

set_option autoImplicit false

namespace Stagecraft.Svg

open Xml

def svgSpace : String := "http://www.w3.org/2000/svg"

def attributeSpaces : List String := [svgSpace, "http://www.w3.org/1999/xlink", xmlSpace]

def attribute? (as : List Attribute) (n : String) : Option String :=
  (as.find? fun a => a.name.base == n && a.name.space.all attributeSpaces.contains).map (·.value)

def declarable : List String := ["fill", "fill-opacity", "color", "display", "visibility"]

def isDeclaredName (c : Char) : Bool := c.isAlphanum || c == '-' || c == '_'

/-- Declarations up to the first that cannot be read. A mark for importance is left out. Each takes
input, so fuel for each character is enough. -/
def declarations : Nat → List Char → List Attribute
  | 0, _ => []
  | fuel + 1, s =>
    let (name, r) := (s.dropWhile isSpace).span isDeclaredName
    match name, r.dropWhile isSpace with
    | _ :: _, ':' :: r =>
      let (all, r) := r.span (· != ';')
      let value := Text.trim (String.ofList (all.takeWhile (· != '!')))
      if value == "" then []
      else ⟨⟨none, String.ofList name⟩, value⟩ ::
        declarations fuel (r.dropWhile fun c => c == ';' || isSpace c)
    | _, _ => []

/-- The attributes of an element with what it declares, which goes first, the last of it
foremost. -/
def styled (as : List Attribute) : List Attribute :=
  match as.find? (·.name == ⟨none, "style"⟩) with
  | none => as
  | some a =>
    let ds := declarations (a.value.length + 1) a.value.toList
    (ds.filter fun d => declarable.contains d.name.base).reverse ++ as

def opacity (s : String) : Scalar :=
  match Length.parse? s with
  | some ⟨n, .plain⟩ => (n.convert : Scalar).clamp 0 1
  | some ⟨n, .percent⟩ => ((n.convert : Scalar) / 100).clamp 0 1
  | _ => 1

def byteOf (x : Scalar) : UInt8 := .ofNat ((x * 255 + 1 / 2).toWord .down word32).toNat

structure Style where
  fill : Option String := none
  fillOpacity : Option String := none
  color : Option String := none
  visibility : Option String := none

def ownValue? (as : List Attribute) (n : String) : Option String :=
  (attribute? as n).filter (· ≠ "inherit")

def Style.enter (s : Style) (as : List Attribute) : Style :=
  ⟨ownValue? as "fill" <|> s.fill, ownValue? as "fill-opacity" <|> s.fillOpacity,
    ownValue? as "color" <|> s.color, ownValue? as "visibility" <|> s.visibility⟩

def Style.isHidden (s : Style) : Bool :=
  s.visibility == some "hidden" || s.visibility == some "collapse"

def Style.paint? (s : Style) : Option Pixel := do
  let p ← (s.fill.map (color? (s.color.getD ""))).getD (some black)
  let given := (s.fillOpacity.map opacity).getD 1
  if s.isHidden then none
  else return { p with alpha := byteOf (.ofNat p.alpha.toNat / 255 * given) }

end Stagecraft.Svg
