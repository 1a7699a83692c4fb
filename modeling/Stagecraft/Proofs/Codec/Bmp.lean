import Stagecraft.Codec.Bmp
import Stagecraft.Proofs.Codec.Bytes
import Stagecraft.Proofs.Number.Rounding
import Stagecraft.Proofs.Raster.Image

/-!
The written form of an image as a bitmap. Main statement: `decode?_encode_eq_some_iff`, by which a
bitmap made of an image gives that image back exactly when neither its sides are too long nor its
samples too many.
-/

set_option autoImplicit false

namespace Stagecraft.Bmp

/-- The fields of a bitmap with the pixels of an image, each a word with four channels. -/
structure Describes (b : Bytes) (i : Image) : Prop where
  signature : b.take 2 = [0x42, 0x4d]
  start : (field b 10 4).toNatLE = 122
  size : (field b 14 4).toNatLE = 108
  width : field b 18 4 = Bytes.ofNatLE 4 i.width
  height : field b 22 4 = Bytes.ofNatLE 4 i.height
  planes : (field b 26 2).toNatLE = 1
  depth : (field b 28 2).toNatLE = 32
  coding : (field b 30 4).toNatLE = 3
  red : (field b 54 4).toNatLE = 0x00ff0000
  green : (field b 58 4).toNatLE = 0x0000ff00
  blue : (field b 62 4).toNatLE = 0x000000ff
  alpha : (field b 66 4).toNatLE = 0xff000000
  length : 122 ≤ b.length
  data : b.drop 122 = bottomUp i.width i.height i.pixels.toList []

theorem encode_describes (i : Image) : Describes (encode i) i where
  signature := by simp [encode]
  start := by simp [encode, field, Bytes.ofNatLE, Bytes.toNatLE]
  size := by simp [encode, field, Bytes.ofNatLE, Bytes.toNatLE]
  width := by simp [encode, field, Bytes.ofNatLE]
  height := by simp [encode, field, Bytes.ofNatLE]
  planes := by simp [encode, field, Bytes.ofNatLE, Bytes.toNatLE]
  depth := by simp [encode, field, Bytes.ofNatLE, Bytes.toNatLE]
  coding := by simp [encode, field, Bytes.ofNatLE, Bytes.toNatLE]
  red := by simp [encode, field, masks, Bytes.ofNatLE, Bytes.toNatLE]
  green := by simp [encode, field, masks, Bytes.ofNatLE, Bytes.toNatLE]
  blue := by simp [encode, field, masks, Bytes.ofNatLE, Bytes.toNatLE]
  alpha := by simp [encode, field, masks, Bytes.ofNatLE, Bytes.toNatLE]
  length := by
    simp [encode, masks, Bytes.length_ofNatLE]
    omega
  data := by simp [encode, masks, Bytes.ofNatLE]

def Channels.full : Channels := ⟨⟨2 ^ 16, 255⟩, ⟨2 ^ 8, 255⟩, ⟨1, 255⟩, ⟨2 ^ 24, 255⟩⟩

section Header

variable {b : Bytes} {i : Image}

theorem Describes.channels?_eq (hb : Describes b i) : channels? b 108 32 = some .full := by
  have hred : Channel.ofMask? 32 0x00ff0000 = some ⟨2 ^ 16, 255⟩ := by decide +kernel
  have hgreen : Channel.ofMask? 32 0x0000ff00 = some ⟨2 ^ 8, 255⟩ := by decide +kernel
  have hblue : Channel.ofMask? 32 0x000000ff = some ⟨1, 255⟩ := by decide +kernel
  have halpha : Channel.ofMask? 32 0xff000000 = some ⟨2 ^ 24, 255⟩ := by decide +kernel
  have hlength : 70 ≤ b.length := Nat.le_trans (by decide) hb.length
  simp [channels?, hb.red, hb.green, hb.blue, hb.alpha, hred, hgreen, hblue, halpha, hlength,
    Channel.absent, Channels.full]

theorem Describes.layout?_eq (hb : Describes b i) : layout? b 108 = some (.words 4 .full) := by
  simp only [layout?, hb.depth, hb.coding, hb.channels?_eq, Option.map_some]

theorem Describes.header?_eq (hb : Describes b i) (hw : i.width < 256 ^ 4) :
    header? b = some ⟨i.width, (Bytes.ofNatLE 4 i.height).toIntLE, .words 4 .full⟩ := by
  have hlength : 54 ≤ b.length := Nat.le_trans (by decide) hb.length
  have hsizes : 108 ∈ headerSizes := by decide
  simp [header?, hb.size, longHeader?, hb.layout?_eq, hb.width, hb.height, hb.planes, hlength,
    hsizes, Bytes.toNatLE_ofNatLE hw]

end Header

section Rows

theorem length_pixelBytes (p : Pixel) : (pixelBytes p).length = 4 := rfl

theorem bottomUp_eq (n rows : Nat) (l : List Pixel) (below : Bytes) :
    bottomUp n rows l below =
      ((chop n rows l).map (·.flatMap pixelBytes)).reverse.flatten ++ below := by
  induction rows generalizing l below with
  | zero => rfl
  | succ rows ih =>
    rw [bottomUp, ih, chop, List.map_cons, List.reverse_cons, List.flatten_append,
      List.flatten_singleton, List.append_assoc]

theorem Channel.read_full {c : Channel} (hc : c.full = 255) (word : Nat) :
    c.read word = .ofNat (word / c.unit) := by
  rw [read, hc, nearest_mul_self (by decide)]
  apply UInt8.toNat_inj.1
  simp

theorem pixel_pixelBytes (p : Pixel) : Channels.full.pixel (Bytes.toNatLE (pixelBytes p)) = p := by
  obtain ⟨r, g, b, a⟩ := p
  have hg := g.toNat_lt
  have hb := b.toNat_lt
  have hr := r.toNat_lt
  have ha := a.toNat_lt
  simp only [Channels.pixel, Channels.full, Channel.read_full, pixelBytes, Bytes.toNatLE,
    Pixel.mk.injEq, if_neg (show ¬(255 : Nat) = 0 by decide), ← UInt8.toNat_inj,
    UInt8.toNat_ofNat']
  omega

theorem wordPixels_flatMap (l : List Pixel) :
    wordPixels 4 .full l.length (l.flatMap pixelBytes) = l := by
  induction l with
  | nil => rfl
  | cons p l ih =>
    rw [List.length_cons, wordPixels, List.flatMap_cons, List.take_left' (length_pixelBytes p),
      List.drop_left' (length_pixelBytes p), pixel_pixelBytes, ih]

theorem stride_words (w : Nat) : stride 32 w = 4 * w := by
  rw [stride]
  omega

/-- The rows of words are those of the image from the bottom up. -/
theorem rows?_bottomUp {w h : Nat} {l : List Pixel} (hl : l.length = w * h) :
    Layout.rows? w h (bottomUp w h l []) (.words 4 .full) = some (chop w h l).reverse := by
  have hlength : ∀ r ∈ (chop w h l).reverse.map (·.flatMap pixelBytes), r.length = 4 * w := by
    intro r hr
    obtain ⟨a, ha, rfl⟩ := List.mem_map.1 hr
    rw [length_flatMap length_pixelBytes, length_of_mem_chop hl a (List.mem_reverse.1 ha)]
  have hrow : ∀ r ∈ (chop w h l).reverse, wordPixels 4 .full w (r.flatMap pixelBytes) = r := by
    intro r hr
    rw [← length_of_mem_chop hl r (List.mem_reverse.1 hr), wordPixels_flatMap]
  have hpieces := Bytes.pieces?_flatten _ hlength []
  rw [List.length_map, List.length_reverse, length_chop] at hpieces
  rw [bottomUp_eq, ← List.map_reverse, Layout.rows?, stride_words, hpieces, Option.bind_eq_bind,
    Option.bind_some, List.map_map]
  exact congrArg some ((List.map_congr_left hrow).trans (List.map_id _))

end Rows

section Files

variable {i : Image}

theorem toIntLE_ofNatLE {n : Nat} (h : n < 256 ^ 4) :
    (Bytes.ofNatLE 4 n).toIntLE = if 2 * n < 256 ^ 4 then (n : Int) else n - 256 ^ 4 := by
  simp only [Bytes.toIntLE, Bytes.toNatLE_ofNatLE h, Bytes.length_ofNatLE]

theorem decode?_encode (hw : i.width < 256 ^ 4) {z : Int}
    (hz : (Bytes.ofNatLE 4 i.height).toIntLE = z) :
    decode? (encode i) =
      if i.width = 0 ∨ z.natAbs = 0 ∨ maxSide < i.width ∨ maxSide < z ∨
          Image.maxBytes < 4 * (i.width * z.natAbs) then none
      else (Layout.rows? i.width z.natAbs (bottomUp i.width i.height i.pixels.toList [])
        (.words 4 .full)).bind fun rows =>
          Image.ofPixels? i.width z.natAbs
            (if z < 0 then rows else rows.reverse).flatten.toArray := by
  have hb := encode_describes i
  rw [decode?, if_pos hb.signature, hb.header?_eq hw, hz, hb.start, hb.data]
  rfl

theorem decode?_encode_eq_some_iff (hw : i.width < 256 ^ 4) (hh : i.height < 256 ^ 4)
    (hw' : 0 < i.width) (hh' : 0 < i.height) :
    decode? (encode i) = some i ↔ i.width ≤ maxSide ∧ i.height ≤ maxSide ∧
      4 * (i.width * i.height) ≤ Image.maxBytes := by
  have hz := toIntLE_ofNatLE hh
  constructor
  · intro h
    rw [decode?_encode hw rfl] at h
    generalize (Bytes.ofNatLE 4 i.height).toIntLE = z at hz h
    split at h
    · cases h
    · rename_i hlimits
      obtain ⟨rows, -, hrows⟩ := Option.bind_eq_some_iff.1 h
      obtain ⟨-, hheight, -⟩ := Image.ofPixels?_eq_some_iff.1 hrows
      rw [← hheight] at hlimits
      have hle : i.height ≤ i.width * i.height := Nat.le_mul_of_pos_left _ hw'
      -- Past the middle of the range the height is read with a sign. Only in the middle it is
      -- still the same without it, and there the samples are too many.
      have hshort : 2 * i.height < 256 ^ 4 := by
        simp only [Image.maxBytes] at hlimits
        split at hz <;> omega
      rw [if_pos hshort] at hz
      omega
  · rintro ⟨hwide, hhigh, hsize⟩
    have hshort : 2 * i.height < 256 ^ 4 := by
      simp only [maxSide] at hhigh
      omega
    rw [if_pos hshort] at hz
    rw [decode?_encode hw hz, Int.natAbs_natCast, if_neg (by omega), rows?_bottomUp i.length_pixels,
      Option.bind_some, if_neg (by omega), List.reverse_reverse, flatten_chop i.length_pixels]
    exact Image.ofPixels?_eq_some_iff.2 ⟨rfl, rfl, rfl⟩

end Files

end Stagecraft.Bmp
