import Stagecraft.Codec.Lzw
import Stagecraft.Raster.Indexed

/-!
Files of pictures with a palette. Reading takes the first picture of a file and puts it on the
screen that the file describes; writing makes one picture that fills its screen.
-/

set_option autoImplicit false

namespace Stagecraft.Gif

def text (s : String) : Bytes := s.toUTF8.toList

def maxSide : Nat := 65535

def colors : Bytes → List Pixel
  | r :: g :: b :: rest => ⟨r, g, b, 255⟩ :: colors rest
  | _ => []

def table? (flags : UInt8) (b : Bytes) : Option (Option (List Pixel) × Bytes) := do
  if Bytes.hasBit flags 7 then
    let (front, b) ← Bytes.split? (3 * 2 ^ (flags.toNat % 8 + 1)) b
    return (some (colors front), b)
  else return (none, b)

/-- The bytes of blocks that stand behind their lengths, up to one of no length, and what follows.
Each block takes input, so fuel for each byte is enough. -/
def blocks? : Nat → Bytes → Option (List Bytes × Bytes)
  | 0, _ => none
  | fuel + 1, b =>
    match b with
    | [] => none
    | 0 :: b => some ([], b)
    | n :: b => do
      let (front, b) ← Bytes.split? n.toNat b
      let (more, b) ← blocks? fuel b
      return (front :: more, b)

def blockBytes : Nat → Bytes → Bytes
  | 0, _ => []
  | _, [] => []
  | _, 0 :: _ => []
  | fuel + 1, n :: b => b.take n.toNat ++ blockBytes fuel (b.drop n.toNat)

structure Frame where
  left : Nat
  top : Nat
  image : Image

/-- The rows in the order from top to bottom when they come in four passes. -/
def passOrder (height : Nat) : List Nat :=
  let rows (start step : Nat) : List Nat := (List.range height).filter fun y =>
    start ≤ y && (y - start) % step == 0
  rows 0 8 ++ rows 4 8 ++ rows 2 4 ++ rows 1 2

/-- The pixel of an index. One without a colour is transparent. -/
def pixel (palette : Array Pixel) (clear : Option UInt8) (i : UInt8) : Pixel :=
  match palette[i.toNat]? with
  | some p => if clear = some i then { p with alpha := 0 } else p
  | none => .transparent

def frame? (palette : Option (List Pixel)) (clear : Option UInt8) (b : Bytes) : Option Frame := do
  let (place, b) ← Bytes.split? 8 b
  let number (i : Nat) : Nat := Bytes.toNatLE ((place.drop i).take 2)
  let width := number 4
  let height := number 6
  match b with
  | flags :: b =>
    let (own, b) ← table? flags b
    let palette ← own <|> palette
    match b with
    | least :: b =>
      if 11 < least ∨ width = 0 ∨ height = 0 then none
      else
        let data := blockBytes (b.length + 1) b
        let indices ← Lzw.decode? least.toNat (width * height) data
        let rows ← Bytes.pieces? width height indices
        let rows := if Bytes.hasBit flags 6 then
            let placed := (passOrder height).zip rows
            (List.range height).map fun y => (placed.lookup y).getD []
          else rows
        let pixels := rows.flatten.map (pixel palette.toArray clear)
        let image ← Image.ofPixels? width height pixels.toArray
        return ⟨number 0, number 2, image⟩
    | [] => none
  | [] => none

/-- The first picture of a file, after blocks that say how it is to be shown. Each block takes
input, so fuel for each byte is enough. -/
def firstFrame? (palette : Option (List Pixel)) : Nat → Option UInt8 → Bytes → Option Frame
  | 0, _, _ => none
  | _, clear, 0x2c :: b => frame? palette clear b
  | fuel + 1, clear, 0x21 :: label :: b => do
    let (bs, b) ← blocks? (b.length + 1) b
    let clear ← match label, bs with
      | 0xf9, [flags, _, _, i] :: _ => some (if Bytes.hasBit flags 0 then some i else none)
      | 0xf9, _ => none
      | _, _ => some clear
    firstFrame? palette fuel clear b
  | _, _, _ => none

def Frame.onScreen (f : Frame) (width height : Nat) : Image :=
  .generate width height fun x y =>
    if f.left ≤ x ∧ f.top ≤ y then f.image.get (x - f.left) (y - f.top) else .transparent

def decode? (b : Bytes) : Option Image := do
  let (sign, b) ← b.split? 6
  let (screen, b) ← b.split? 7
  let width := Bytes.toNatLE (screen.take 2)
  let height := Bytes.toNatLE ((screen.drop 2).take 2)
  if (sign = text "GIF87a" ∨ sign = text "GIF89a") ∧ 0 < width ∧ 0 < height ∧
      4 * (width * height) ≤ Image.maxBytes then
    let (palette, b) ← table? (screen.getD 4 0) b
    let f ← firstFrame? palette (b.length + 1) none b
    return f.onScreen width height
  else none

def maxBlock : Nat := 255

def inBlocks (b : Bytes) : Bytes :=
  if b = [] then [0]
  else .ofNat (min maxBlock b.length) :: (b.take maxBlock ++ inBlocks (b.drop maxBlock))
termination_by b.length
decreasing_by
  have : 0 < b.length := List.length_pos_iff.mpr ‹_›
  simp only [maxBlock, List.length_drop]; omega

def tableBytes (palette : List Pixel) : Bytes :=
  ((palette.map fun p => [p.red, p.green, p.blue]).flatten).rightpad (3 * 256) 0

def encode? (i : Image) : Option Bytes :=
  if maxSide < i.width ∨ maxSide < i.height then none
  else
    let t := Indexed.ofPixels i.pixels
    let sides := Bytes.ofNatLE 2 i.width ++ Bytes.ofNatLE 2 i.height
    some (text "GIF89a" ++ sides ++ [0xf7, 0, 0] ++ tableBytes t.palette ++
      [0x21, 0xf9, 4, if t.clear.isSome then 1 else 0, 0, 0, t.clear.getD 0, 0] ++
      [0x2c, 0, 0, 0, 0] ++ sides ++ [0, 8] ++ inBlocks (Lzw.encode t.indices) ++ [0x3b])

end Stagecraft.Gif
