import Stagecraft.Act
import Stagecraft.Cast.Gallery
import Stagecraft.Codec.Gzip
import Stagecraft.Codec.Svg.Painting
import Stagecraft.Files.Picture
import Stagecraft.Raster.Scale

/-!
Costumes: an image of the gallery with the horizontal offset that centres it. They can be made from
pictures and drawings in files, at a whole fraction of their size.
-/

set_option autoImplicit false

namespace Stagecraft

structure Costume where
  image : Handle
  xOffset : Scalar := 0
  deriving DecidableEq

inductive DrawingError where
  | invalid
  | tooLarge (width height : Nat)
  deriving DecidableEq, Repr

def DrawingError.message : DrawingError → String
  | .invalid => "invalid SVG"
  | .tooLarge w h => s!"cannot allocate {w}x{h} SVG raster"

inductive CostumeError where
  | zeroResolution
  | zeroResolutionFor (path : String)
  | unreadable (path : String)
  | undecodable (path : String)
  | unrasterized (path : String) (cause : DrawingError)
  | drawing (e : DrawingError)
  deriving DecidableEq, Repr

def CostumeError.message : CostumeError → String
  | .zeroResolution => "costume resolution must be at least 1"
  | .zeroResolutionFor p => s!"costume resolution for {p} must be at least 1"
  | .unreadable p => "failed to read costume image " ++ p
  | .undecodable p => "failed to decode costume image " ++ p
  | .unrasterized p _ => "failed to rasterize costume image " ++ p
  | .drawing e => e.message

/-- The text in bytes that encode one, which may be compressed. -/
def textOf? (b : Bytes) : Option (List Char) := do
  let b ← if Gzip.signature.isPrefixOf b then Gzip.decode? b else some b
  return (← String.fromUTF8? ⟨b.toArray⟩).toList

/-- The picture of a drawing at one part in `resolution` of its size. -/
def rasterize (b : Bytes) (resolution : Nat) : Except (Halt DrawingError) Image :=
  match (textOf? b).map Svg.drawing? with
  | some (.error f) => .error (.fault f)
  | some (.ok (some d)) =>
    match d.rasterize? resolution with
    | some i => .ok i
    | none => .error (.error (.tooLarge (d.sides resolution).1 (d.sides resolution).2))
  | _ => .error (.error .invalid)

namespace Costume

variable {ν : Type}

def make {ε : Type} (i : Image) : Act ν ε Gallery Costume := do
  let (h, g) := (← get).ready i
  set g
  return ⟨h, 0⟩

def pending {ε : Type} : Act ν ε Gallery Costume := do
  let (h, g) := (← get).pending
  set g
  return ⟨h, 0⟩

def ofHandle (h : Handle) : Costume := ⟨h, 0⟩

def withXOffset (c : Costume) (x : Scalar) : Costume := { c with xOffset := x }

def ofDrawing (b : Bytes) (resolution : Nat) : Act ν CostumeError Gallery Costume :=
  if resolution = 0 then Act.fail .zeroResolution
  else match rasterize b resolution with
    | .ok i => make i
    | .error (.error e) => Act.fail (.drawing e)
    | .error (.fault f) => Act.fault f

def imageOf (d : Disk) (path : String) (resolution : Nat) : Except (Halt CostumeError) Image :=
  if resolution = 0 then .error (.error (.zeroResolutionFor path))
  else if Path.kind? path = some "svg" then
    match d.read? path with
    | none => .error (.error (.unreadable path))
    | some b => (rasterize b resolution).mapError (·.map (.unrasterized path))
  else
    match d.picture? path with
    | .error fault => .error (.fault fault)
    | .ok none => .error (.error (.undecodable path))
    | .ok (some i) => .ok (i.downscale resolution)

def ofFile (d : Disk) (path : String) (resolution : Nat) : Act ν CostumeError Gallery Costume :=
  match imageOf d path resolution with
  | .error (.error e) => Act.fail e
  | .error (.fault fault) => Act.fault fault
  | .ok i => do
    Act.log .debug s!"loaded costume {path} ({i.width}x{i.height})"
    make i

end Costume

end Stagecraft
