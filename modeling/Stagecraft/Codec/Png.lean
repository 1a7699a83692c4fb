import Stagecraft.Codec.Samples
import Stagecraft.Codec.Zlib
import Stagecraft.Fault
import Stagecraft.Raster.Image

/-!
Portable network graphics: a signature and a sequence of checked chunks. Rows may come in passes
over ever more of the image; writing makes one pass of eight bits a channel, with an opacity.
-/

set_option autoImplicit false

namespace Stagecraft.Png

def signature : Bytes := [0x89, 0x50, 0x4e, 0x47, 0x0d, 0x0a, 0x1a, 0x0a]

inductive ColorType where
  | gray
  | color
  | indexed
  | grayAlpha
  | colorAlpha
  deriving DecidableEq, Repr

def ColorType.ofCode? : Nat → Option ColorType
  | 0 => some .gray
  | 2 => some .color
  | 3 => some .indexed
  | 4 => some .grayAlpha
  | 6 => some .colorAlpha
  | _ => none

def ColorType.samples : ColorType → Nat
  | .gray => 1
  | .color => 3
  | .indexed => 1
  | .grayAlpha => 2
  | .colorAlpha => 4

def ColorType.depths : ColorType → List Nat
  | .gray => [1, 2, 4, 8, 16]
  | .indexed => [1, 2, 4, 8]
  | _ => [8, 16]

structure Header where
  width : Nat
  height : Nat
  colors : ColorType
  depth : Nat
  interlaced : Bool

def Header.ofBytes? (b : Bytes) : Option Header := do
  let (w, b) ← b.split? 4
  let (h, b) ← b.split? 4
  match b with
  | [depth, colors, method, filter, interlace] =>
    let colors ← ColorType.ofCode? colors.toNat
    if colors.depths.contains depth.toNat ∧ method = 0 ∧ filter = 0 ∧ interlace ≤ 1 ∧
        0 < w.toNatBE ∧ 0 < h.toNatBE then
      some ⟨w.toNatBE, h.toNatBE, colors, depth.toNat, interlace = 1⟩
    else none
  | _ => none

def Header.bits (h : Header) : Nat := h.depth * h.colors.samples

/-- The length of a row of `width` pixels before its prediction is undone, with the byte for the
filter. -/
def Header.rowLength (h : Header) (width : Nat) : Nat := 1 + (h.bits * width + 7) / 8

/-- A part of an image that is sent on its own: every `across`-th column from `left` and every
`down`-th row from `top`. -/
structure Pass where
  left : Nat
  top : Nat
  across : Nat
  down : Nat

def Pass.whole : Pass := ⟨0, 0, 1, 1⟩

def Pass.seven : List Pass :=
  [⟨0, 0, 8, 8⟩, ⟨4, 0, 8, 8⟩, ⟨0, 4, 4, 8⟩, ⟨2, 0, 4, 4⟩, ⟨0, 2, 2, 4⟩, ⟨1, 0, 2, 2⟩,
    ⟨0, 1, 1, 2⟩]

def reached (n start step : Nat) : Nat := (n - start + step - 1) / step

def Pass.width (p : Pass) (h : Header) : Nat := reached h.width p.left p.across

/-- A pass without columns has no rows. -/
def Pass.height (p : Pass) (h : Header) : Nat :=
  if p.width h = 0 then 0 else reached h.height p.top p.down

def Header.passes (h : Header) : List Pass :=
  (if h.interlaced then Pass.seven else [.whole]).filter fun p => p.height h ≠ 0

def Pass.size (p : Pass) (h : Header) : Nat := h.rowLength (p.width h) * p.height h

def Header.size (h : Header) : Nat := h.passes.foldl (fun n p => n + p.size h) 0

/-- No more bytes than this are made of the compressed ones. -/
def Header.maxSize (h : Header) : Nat :=
  (if h.interlaced then 2 else 1) * (h.rowLength h.width * h.height)

structure Sheet where
  header : Option Header := none
  palette : Option Bytes := none
  opacity : Option (List Nat) := none

def kind (name : String) : Bytes := name.toUTF8.toList

/-- The first letter of the kind of a chunk tells whether a reader has to understand it. -/
def isCritical (k : Bytes) : Bool := (k.headD 0).toNat / 32 % 2 == 0

def isPalette (b : Bytes) : Bool := 3 ≤ b.length && b.length ≤ 3 * 256

/-- What a chunk of opacities says with these colours: for indexed ones the opacity of each, for
others the one that is transparent. Samples of up to eight bits stand in two bytes, of which the
second counts. A chunk that says nothing is passed over, and so is one that is too long. -/
def opacity? (h : Header) (palette : Option Bytes) (b : Bytes) : Option (List Nat) :=
  if 256 < b.length then none
  else
    match h.colors, palette, b with
    | .gray, _, _ :: g :: _ => some (if h.depth = 16 then Samples.wide b else [g.toNat])
    | .color, _, _ :: r :: _ :: g :: _ :: bl :: _ =>
      some (if h.depth = 16 then Samples.wide b else [r.toNat, g.toNat, bl.toNat])
    | .indexed, some _, _ :: _ => some (b.map UInt8.toNat)
    | _, _, _ => none

/-- Takes in one intact chunk. The header comes first and once, there is one palette, and of the
opacities the first ones count. -/
def Sheet.take? (s : Sheet) (k body : Bytes) : Option Sheet :=
  match s.header with
  | none =>
    if k = kind "IHDR" then do return { s with header := ← Header.ofBytes? body } else none
  | some h =>
    if k = kind "PLTE" then
      if s.palette.isNone ∧ isPalette body then some { s with palette := some body } else none
    else if k = kind "tRNS" then
      some { s with opacity := s.opacity <|> opacity? h s.palette body }
    else if isCritical k then none
    else some s

/-- Reads chunks up to the first one with pixels, and gives back what begins with it. Every chunk
takes input, so fuel for each byte is enough. -/
def front? : Nat → Sheet → Bytes → Option (Sheet × Bytes)
  | 0, _, _ => none
  | fuel + 1, s, all => do
    let (length, b) ← all.split? 4
    let (k, b) ← b.split? 4
    if k = kind "IDAT" then some (s, all)
    else do
      let (body, b) ← b.split? length.toNatBE
      let (check, b) ← b.split? 4
      if check.toNatBE = Checksum.crc (k ++ body) then front? fuel (← s.take? k body) b
      else if isCritical k then none
      else front? fuel s b

/-- Compressed pixels, one piece for each chunk of them, and whether all of these are intact and
another chunk begins after them. Nothing is read after a damaged piece. -/
def pieces : Nat → Bytes → List Bytes × Bool
  | 0, _ => ([], false)
  | fuel + 1, b =>
    match b.split? 8 with
    | none => ([], false)
    | some (head, b) =>
      let k := head.drop 4
      if k ≠ kind "IDAT" then ([], true)
      else
        let length := Bytes.toNatBE (head.take 4)
        let body := b.take length
        match Bytes.split? 4 (b.drop length) with
        | none => ([body], false)
        | some (check, b) =>
          if check.toNatBE = Checksum.crc (k ++ body) then
            let (more, intact) := pieces fuel b
            (body :: more, intact)
          else ([body], false)

/-- Whichever of left, above and above left is nearest to left plus above less above left. -/
def paeth (a b c : Nat) : Nat :=
  let p : Int := a + b - c
  let da := (p - a).natAbs
  let db := (p - b).natAbs
  let dc := (p - c).natAbs
  if da ≤ db ∧ da ≤ dc then a else if db ≤ dc then b else c

def predict? : UInt8 → Option (Nat → Nat → Nat → Nat)
  | 0 => some fun _ _ _ => 0
  | 1 => some fun a _ _ => a
  | 2 => some fun _ b _ => b
  | 3 => some fun a b _ => (a + b) / 2
  | 4 => some paeth
  | _ => none

def restoreRow (n : Nat) (f : Nat → Nat → Nat → Nat) (above : Array UInt8) (row : Bytes) :
    Array UInt8 :=
  row.foldl (fun out b =>
    let i := out.size
    let left := if i < n then 0 else (out.getD (i - n) 0).toNat
    let aboveLeft := if i < n then 0 else (above.getD (i - n) 0).toNat
    out.push (b + .ofNat (f left (above.getD i 0).toNat aboveLeft))) #[]

def restore? (n : Nat) : Array UInt8 → List Bytes → Option (List Bytes)
  | _, [] => some []
  | above, (filter :: row) :: rest => do
    let f ← predict? filter
    let out := if filter = 0 then row.toArray else restoreRow n f above row
    let more ← restore? n out rest
    return out.toList :: more
  | _, [] :: _ => none

def lookup (palette : Array UInt8) (opacity : Array Nat) (i : Nat) : Pixel :=
  ⟨palette.getD (3 * i) 0, palette.getD (3 * i + 1) 0, palette.getD (3 * i + 2) 0,
    .ofNat (opacity.getD i 255)⟩

def keyed (key : Option (List Nat)) (samples : List Nat) : UInt8 :=
  if key = some samples then 0 else 255

def channel (depth n : Nat) : UInt8 :=
  if depth = 8 then .ofNat n
  else if depth = 16 then .ofNat ((n + 128) / 257)
  else .ofNat (n * (255 / (2 ^ depth - 1)))

def pixels (h : Header) (entry : Nat → Pixel) (key : Option (List Nat)) : List Nat → List Pixel
  | [] => []
  | x :: rest =>
    let c := channel h.depth
    match h.colors, rest with
    | .gray, rest => ⟨c x, c x, c x, keyed key [x]⟩ :: pixels h entry key rest
    | .indexed, rest => entry x :: pixels h entry key rest
    | .grayAlpha, a :: rest => ⟨c x, c x, c x, c a⟩ :: pixels h entry key rest
    | .color, y :: z :: rest => ⟨c x, c y, c z, keyed key [x, y, z]⟩ :: pixels h entry key rest
    | .colorAlpha, y :: z :: a :: rest => ⟨c x, c y, c z, c a⟩ :: pixels h entry key rest
    | _, _ => []

/-- More opacities than there are indexed colours count for nothing. -/
def Sheet.entry (s : Sheet) : Nat → Pixel :=
  let palette := (s.palette.getD []).toArray
  let opacity := (s.opacity.getD []).toArray
  lookup palette (if 3 * opacity.size ≤ palette.size then opacity else #[])

def Sheet.cutColor? (s : Sheet) (h : Header) : Option Nat := do
  let left := (← s.palette).length % 3
  if h.colors = .indexed ∧ left ≠ 0 then some left else none

def Sheet.pixelSize (s : Sheet) (h : Header) : Nat :=
  let samples := if h.colors = .indexed then 3 else h.colors.samples
  (if h.depth = 16 then 2 else 1) * (samples + if s.opacity.isSome then 1 else 0)

def raw? (h : Header) (least : Nat) (data : List Bytes) : Option Bytes :=
  (Zlib.decodePieces? least h.maxSize [] data).map Array.toList

def Pass.rows? (p : Pass) (h : Header) (count : Nat) (b : Bytes) : Option (List Bytes) := do
  let rows ← Bytes.pieces? (h.rowLength (p.width h)) count b
  restore? (max 1 (h.bits / 8)) #[] rows

def passRows? (s : Sheet) (h : Header) : List Pass → Bytes → Option (List (List (List Pixel)))
  | [], _ => some []
  | p :: ps, b => do
    let rows ← p.rows? h (p.height h) b
    let more ← passRows? s h ps (b.drop (p.size h))
    let row (r : Bytes) : List Pixel :=
      (pixels h s.entry s.opacity (Samples.unpack h.depth r)).take (p.width h)
    return rows.map row :: more

def Header.hasFirstRow (h : Header) (data : List Bytes) : Bool :=
  match h.passes with
  | [] => false
  | p :: _ => ((raw? h (h.rowLength (p.width h)) data).bind (p.rows? h 1)).isSome

def passPixel (x y : Nat) : List (Pass × Array (Array Pixel)) → Pixel
  | [] => .transparent
  | (p, rows) :: rest =>
    if p.left ≤ x ∧ p.top ≤ y ∧ (x - p.left) % p.across = 0 ∧ (y - p.top) % p.down = 0 then
      (rows.getD ((y - p.top) / p.down) #[]).getD ((x - p.left) / p.across) .transparent
    else passPixel x y rest

/-- The image from compressed pixels. The palette is looked at once the first row is there, and then
a part of a colour is a fault. -/
def Sheet.image? (s : Sheet) (data : List Bytes) (intact : Bool) : Except Fault (Option Image) :=
  match s.header with
  | none => .ok none
  | some h =>
    if h.colors = .indexed ∧ s.palette = none ∨
        Image.maxBytes < s.pixelSize h * (h.width * h.height) then .ok none
    else
      match s.cutColor? h with
      | some left => if h.hasFirstRow data then .error (.sliceEnd 3 left) else .ok none
      | none => .ok do
        let raw ← if intact then raw? h h.size data else none
        let rows ← passRows? s h h.passes raw
        if h.interlaced then
          let passes := h.passes.zip (rows.map fun r => (r.map List.toArray).toArray)
          return .generate h.width h.height fun x y => passPixel x y passes
        else Image.ofPixels? h.width h.height rows.flatten.flatten.toArray

def decode? (b : Bytes) : Except Fault (Option Image) :=
  match b.split? signature.length with
  | none => .ok none
  | some (sign, b) =>
    if sign = signature then
      match front? (b.length + 1) {} b with
      | none => .ok none
      | some (s, b) =>
        let (data, intact) := pieces (b.length + 1) b
        s.image? data intact
    else .ok none

def chunk (k body : Bytes) : Bytes :=
  Bytes.ofNatBE 4 body.length ++ k ++ body ++ Bytes.ofNatBE 4 (Checksum.crc (k ++ body))

/-- Rows of `n` bytes, each behind a zero for no prediction. -/
def unfiltered (n : Nat) : Nat → Bytes → Bytes
  | 0, _ => []
  | rows + 1, b => 0 :: (b.take n ++ unfiltered n rows (b.drop n))

def maxBody : Nat := 2 ^ 31 - 1

def dataChunks (b : Bytes) : Bytes :=
  if maxBody < b.length then
    chunk (kind "IDAT") (b.take maxBody) ++ dataChunks (b.drop maxBody)
  else
    chunk (kind "IDAT") b
termination_by b.length
decreasing_by simp only [maxBody, List.length_drop] at *; omega

def encode? (i : Image) : Option Bytes :=
  if i.width = 0 ∨ i.height = 0 then none
  else
    let header := Bytes.ofNatBE 4 i.width ++ Bytes.ofNatBE 4 i.height ++ [8, 6, 0, 0, 0]
    let data := Zlib.encode (unfiltered (4 * i.width) i.height i.toBytes)
    some (signature ++ chunk (kind "IHDR") header ++ dataChunks data ++
      chunk (kind "IEND") [])

end Stagecraft.Png
