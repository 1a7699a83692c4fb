import Stagecraft.Codec.Samples
import Stagecraft.Number.Nearest
import Stagecraft.Raster.Image

/-!
Bitmap files. A pixel is a word with a channel for each colour, or the index of a colour in a
palette; indices may stand in runs. Writing makes words of 32 bits with an opacity.
-/

set_option autoImplicit false

namespace Stagecraft.Bmp

/-- The place of a channel in a word: what its lowest bit counts, and its largest value. One whose
largest value is zero says nothing. -/
structure Channel where
  unit : Nat
  full : Nat
  deriving DecidableEq, Repr

def Channel.absent : Channel := ⟨1, 0⟩

/-- The channel of the bits in a mask, which stand together and within `bits` bits. The eight
highest of them count. -/
def Channel.ofMask? (bits mask : Nat) : Option Channel :=
  match (List.range 32).find? mask.testBit with
  | none => some .absent
  | some low =>
    let all := mask / 2 ^ low
    if all + 1 = 2 ^ (all.log2 + 1) ∧ mask < 2 ^ bits then
      let spare := max 1 ((all + 1) / 256)
      some ⟨2 ^ low * spare, all / spare⟩
    else none

def Channel.read (c : Channel) (word : Nat) : UInt8 :=
  .ofNat (nearest (word / c.unit % (c.full + 1) * 255) c.full)

structure Channels where
  red : Channel
  green : Channel
  blue : Channel
  alpha : Channel := .absent
  deriving DecidableEq, Repr

def Channels.short : Channels := ⟨⟨2 ^ 10, 31⟩, ⟨2 ^ 5, 31⟩, ⟨1, 31⟩, .absent⟩

def Channels.plain : Channels := ⟨⟨2 ^ 16, 255⟩, ⟨2 ^ 8, 255⟩, ⟨1, 255⟩, .absent⟩

def Channels.pixel (c : Channels) (word : Nat) : Pixel :=
  ⟨c.red.read word, c.green.read word, c.blue.read word,
    if c.alpha.full = 0 then 255 else c.alpha.read word⟩

inductive Layout where
  | words (size : Nat) (channels : Channels)
  | indices (depth : Nat) (palette : Array Pixel)
  | runs (depth : Nat) (palette : Array Pixel)

def Layout.samples : Layout → Nat
  | .words _ c => if c.alpha.full = 0 then 3 else 4
  | _ => 3

def black : Pixel := ⟨0, 0, 0, 255⟩

/-- The length of a row in the file, a multiple of four. -/
def stride (bits width : Nat) : Nat := (bits * width + 31) / 32 * 4

def wordPixels (size : Nat) (c : Channels) : Nat → Bytes → List Pixel
  | 0, _ => []
  | count + 1, b =>
    c.pixel (Bytes.toNatLE (b.take size)) :: wordPixels size c count (b.drop size)

def entry (palette : Array Pixel) (i : Nat) : Pixel := palette.getD i black

def toWidth (width : Nat) (row : Array Pixel) : Array Pixel :=
  row.extract 0 width ++ Array.replicate (width - row.size) black

/-- The rows that runs of indices make; `rows` are done, and `row` is the start of the next. A run
that is too long ends its row, and one that is spelled out also ends the picture. Each run takes
input, so fuel for each byte is enough. -/
def runs? (depth width height : Nat) (palette : Array Pixel) :
    Nat → Bytes → Array (Array Pixel) → Array Pixel → Option (Array (Array Pixel))
  | 0, _, _, _ => none
  | fuel + 1, b, rows, row =>
    let run (n : Nat) (b : Bytes) : Array Pixel :=
      row ++ (((Samples.unpack depth b).take n).map (entry palette)).toArray
    if height ≤ rows.size then some rows
    else
      match b with
      | 0 :: 0 :: b => runs? depth width height palette fuel b (rows.push (toWidth width row)) #[]
      | 0 :: 1 :: _ => some (rows.push (toWidth width row))
      | 0 :: 2 :: across :: down :: b =>
        let (rows, row) :=
          if down = 0 then (rows, row)
          else (rows.push (toWidth width row) ++
            Array.replicate (down.toNat - 1) (toWidth width #[]), toWidth row.size #[])
        let row := row ++ Array.replicate across.toNat black
        if rows.size < height ∧ row.size ≤ width then
          runs? depth width height palette fuel b rows row
        else none
      | 0 :: n :: b => do
        let (data, b) ← Bytes.split? ((depth * n.toNat + 15) / 16 * 2) b
        let row := run n.toNat data
        if row.size ≤ width then runs? depth width height palette fuel b rows row
        else some (rows.push (toWidth width row))
      | n :: i :: b =>
        let row := run n.toNat (List.replicate n.toNat i)
        if row.size ≤ width then runs? depth width height palette fuel b rows row
        else runs? depth width height palette fuel b (rows.push (toWidth width row)) #[]
      | _ => none

def Layout.rows? (width height : Nat) (b : Bytes) : Layout → Option (List (List Pixel))
  | .words size c => do
    let rows ← Bytes.pieces? (stride (8 * size) width) height b
    return rows.map (wordPixels size c width)
  | .indices depth palette => do
    let rows ← Bytes.pieces? (stride depth width) height b
    return rows.map fun r => ((Samples.unpack depth r).take width).map (entry palette)
  | .runs depth palette => do
    let rows ← runs? depth width height palette (b.length + 1) b #[] #[]
    return (rows ++ Array.replicate (height - rows.size) (toWidth width #[])).toList.map
      Array.toList

def field (b : Bytes) (start n : Nat) : Bytes := (b.drop start).take n

structure Header where
  width : Nat
  /-- Below zero if the first row of the file is at the top. -/
  height : Int
  layout : Layout

def palette? (b : Bytes) (start size count : Nat) : Option (Array Pixel) := do
  let entries ← Bytes.pieces? size count (b.drop start)
  return (entries.map fun e => ⟨e.getD 2 0, e.getD 1 0, e.getD 0 0, 255⟩).toArray

/-- The short header, whose palettes are full and have colours of three bytes. -/
def shortHeader? (b : Bytes) : Option Header := do
  let depth := (field b 24 2).toNatLE
  let layout ←
    if [1, 4, 8].contains depth then (palette? b 26 3 (2 ^ depth)).map (.indices depth)
    else if depth = 24 then some (.words 3 .plain)
    else none
  if 26 ≤ b.length ∧ (field b 22 2).toNatLE = 1 then
    some ⟨(field b 18 2).toNatLE, (field b 20 2).toNatLE, layout⟩
  else none

def headerSizes : List Nat := [40, 52, 56, 108, 124]

/-- The channels that masks give. The shorter headers have none for the opacity. -/
def channels? (b : Bytes) (size bits : Nat) : Option Channels := do
  let hasAlpha := 52 < size
  let mask (start : Nat) := Channel.ofMask? bits (field b start 4).toNatLE
  let red ← mask 54
  let green ← mask 58
  let blue ← mask 62
  let alpha ← if hasAlpha then mask 66 else some .absent
  if (if hasAlpha then 70 else 66) ≤ b.length ∧
      red ≠ .absent ∧ green ≠ .absent ∧ blue ≠ .absent then
    some ⟨red, green, blue, alpha⟩
  else none

/-- The palette after a header; without a number of colours it is full. -/
def longPalette? (b : Bytes) (size depth : Nat) : Option (Array Pixel) :=
  let used := (field b 46 4).toNatLE
  if 2 ^ depth < used then none
  else palette? b (14 + size) 4 (if used = 0 then 2 ^ depth else used)

def layout? (b : Bytes) (size : Nat) : Option Layout :=
  let depth := (field b 28 2).toNatLE
  match (field b 30 4).toNatLE, depth with
  | 0, 16 => some (.words 2 .short)
  | 0, 24 => some (.words 3 .plain)
  | 0, 32 => some (.words 4 .plain)
  | 0, _ =>
    if [1, 2, 4, 8].contains depth then (longPalette? b size depth).map (.indices depth) else none
  | 1, 8 => (longPalette? b size 8).map (.runs 8)
  | 2, 4 => (longPalette? b size 4).map (.runs 4)
  | 3, 16 => (channels? b size 16).map (.words 2)
  | 3, 32 => (channels? b size 32).map (.words 4)
  | _, _ => none

/-- The longer headers. Runs come from the bottom up. -/
def longHeader? (b : Bytes) (size : Nat) : Option Header := do
  let layout ← layout? b size
  let height := (field b 22 4).toIntLE
  let isRuns := layout matches .runs _ _
  if 54 ≤ b.length ∧ headerSizes.contains size ∧ (field b 26 2).toNatLE = 1 ∧
      ¬(isRuns ∧ height < 0) then
    some ⟨(field b 18 4).toNatLE, height, layout⟩
  else none

def header? (b : Bytes) : Option Header :=
  let size := (field b 14 4).toNatLE
  if size = 12 then shortHeader? b else longHeader? b size

def maxSide : Nat := 65535

def decode? (b : Bytes) : Option Image := do
  let h ← if b.take 2 = [0x42, 0x4d] then header? b else none
  let height := h.height.natAbs
  if h.width = 0 ∨ height = 0 ∨ maxSide < h.width ∨ maxSide < h.height ∨
      Image.maxBytes < h.layout.samples * (h.width * height) then
    none
  else
    let rows ← h.layout.rows? h.width height (b.drop (field b 10 4).toNatLE)
    let rows := if h.height < 0 then rows else rows.reverse
    Image.ofPixels? h.width height rows.flatten.toArray

def pixelBytes (p : Pixel) : Bytes := [p.blue, p.green, p.red, p.alpha]

/-- Rows of `n` pixels, each before those above it; `below` follows them all. -/
def bottomUp (n : Nat) : Nat → List Pixel → Bytes → Bytes
  | 0, _, below => below
  | rows + 1, l, below => bottomUp n rows (l.drop n) ((l.take n).flatMap pixelBytes ++ below)

def masks : Bytes :=
  Bytes.ofNatLE 4 0x00ff0000 ++ Bytes.ofNatLE 4 0x0000ff00 ++ Bytes.ofNatLE 4 0x000000ff ++
    Bytes.ofNatLE 4 0xff000000

def encode (i : Image) : Bytes :=
  let data := bottomUp i.width i.height i.pixels.toList []
  let le := Bytes.ofNatLE
  [0x42, 0x4d] ++ le 4 (122 + data.length) ++ le 4 0 ++ le 4 122 ++ le 4 108 ++
    le 4 i.width ++ le 4 i.height ++ le 2 1 ++ le 2 32 ++ le 4 3 ++ le 4 data.length ++
    List.replicate 16 0 ++ masks ++ List.replicate 52 0 ++ data

/-- A file says how long it is in a word of 32 bits. -/
def encode? (i : Image) : Option Bytes :=
  if 122 + 4 * (i.width * i.height) < 2 ^ 32 then some (encode i) else none

end Stagecraft.Bmp
