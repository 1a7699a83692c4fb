import Stagecraft.Codec.Png
import Stagecraft.Proofs.Codec.Deflate
import Stagecraft.Proofs.Raster.Image

/-!
The written form of an image as chunks. Main statement: `decode?_of_encode?`, by which a file that
was made of an image gives back that image as long as its samples are not too many, and nothing
otherwise.
-/

set_option autoImplicit false

namespace Stagecraft

theorem Checksum.crc_lt (b : Bytes) : Checksum.crc b < 256 ^ 4 := UInt32.toNat_lt _

theorem Zlib.decode?_encode (b : Bytes) :
    Zlib.decode? b.length (Zlib.encode b) = some b.toArray := by
  have hheader : validHeader 0x78 0x01 = true := by decide
  rw [encode, decode?, if_pos hheader, Deflate.inflate?_store]

theorem Zlib.length_encode_le (b : Bytes) : (Zlib.encode b).length ≤ 2 * b.length + 11 := by
  have := Deflate.length_store_le b
  simp only [encode, List.length_cons, List.length_append, Bytes.length_ofNatBE]
  omega

theorem Pixel.length_toBytes (p : Pixel) : p.toBytes.length = 4 := rfl

theorem Image.length_toBytes (i : Image) : i.toBytes.length = 4 * i.width * i.height := by
  rw [toBytes, length_flatMap Pixel.length_toBytes, i.length_pixels, Nat.mul_assoc]

namespace Png

theorem kind_header : kind "IHDR" = [73, 72, 68, 82] := by decide +kernel

theorem kind_data : kind "IDAT" = [73, 68, 65, 84] := by decide +kernel

theorem length_kind_data : (kind "IDAT").length = 4 := by
  rw [kind_data]
  rfl

theorem kind_end : kind "IEND" = [73, 69, 78, 68] := by decide +kernel

section Chunks

variable {k body rest : Bytes} {fuel : Nat} {s : Sheet}

/-- An intact chunk before the pixels is taken in. -/
theorem front?_chunk (hk : k.length = 4) (hdata : k ≠ kind "IDAT") (hbody : body.length < 256 ^ 4) :
    front? (fuel + 1) s (chunk k body ++ rest) = (s.take? k body).bind (front? fuel · rest) := by
  simp only [front?, chunk, List.append_assoc, Bytes.split?_append (Bytes.length_ofNatBE 4 _),
    Bytes.split?_append hk, Bytes.toNatBE_ofNatBE hbody, Bytes.split?_append rfl,
    Bytes.toNatBE_ofNatBE (Checksum.crc_lt _), Option.bind_eq_bind, Option.bind_some, if_neg hdata,
    if_true]

theorem front?_data {length : Bytes} (hlength : length.length = 4) :
    front? (fuel + 1) s (length ++ (kind "IDAT" ++ rest)) =
      some (s, length ++ (kind "IDAT" ++ rest)) := by
  simp only [front?, Bytes.split?_append hlength, Bytes.split?_append length_kind_data,
    Option.bind_eq_bind, Option.bind_some, if_true]

theorem dataChunks_eq (b rest : Bytes) : ∃ length more : Bytes, length.length = 4 ∧
    dataChunks b ++ rest = length ++ (kind "IDAT" ++ more) := by
  rw [dataChunks]
  split
  · exact ⟨_, _, Bytes.length_ofNatBE 4 _, by simp only [chunk, List.append_assoc]; rfl⟩
  · exact ⟨_, _, Bytes.length_ofNatBE 4 _, by simp only [chunk, List.append_assoc]; rfl⟩

theorem split?_chunk (hk : k.length = 4) : Bytes.split? 8 (chunk k body ++ rest) =
    some (Bytes.ofNatBE 4 body.length ++ k,
      body ++ (Bytes.ofNatBE 4 (Checksum.crc (k ++ body)) ++ rest)) := by
  have hhead : (Bytes.ofNatBE 4 body.length ++ k).length = 8 := by
    rw [List.length_append, Bytes.length_ofNatBE, hk]
  rw [chunk, List.append_assoc, List.append_assoc, Bytes.split?_append hhead]

theorem pieces_chunk (hbody : body.length < 256 ^ 4) :
    pieces (fuel + 1) (chunk (kind "IDAT") body ++ rest) =
      (body :: (pieces fuel rest).1, (pieces fuel rest).2) := by
  have hlength := Bytes.length_ofNatBE 4 body.length
  simp only [pieces, split?_chunk length_kind_data, List.drop_left' hlength,
    List.take_left' hlength, Bytes.toNatBE_ofNatBE hbody, List.take_left, List.drop_left,
    Bytes.split?_append (Bytes.length_ofNatBE 4 _), Bytes.toNatBE_ofNatBE (Checksum.crc_lt _),
    ne_eq, not_true_eq_false, if_false, if_true]

theorem pieces_end (rest : Bytes) :
    pieces (fuel + 1) (chunk (kind "IEND") [] ++ rest) = ([], true) := by
  have hkind : (kind "IEND").length = 4 := by rw [kind_end]; rfl
  have hdata : kind "IEND" ≠ kind "IDAT" := by
    rw [kind_end, kind_data]
    decide
  simp only [pieces, split?_chunk hkind, List.drop_left' (Bytes.length_ofNatBE 4 _), ne_eq, hdata,
    not_false_eq_true, if_true]

end Chunks

section Rows

variable {w h : Nat}

theorem unfiltered_eq (n rows : Nat) (b : Bytes) :
    unfiltered n rows b = ((chop n rows b).map (0 :: ·)).flatten := by
  induction rows generalizing b with
  | zero => rfl
  | succ rows ih => rw [unfiltered, ih, chop, List.map_cons, List.flatten_cons, List.cons_append]

theorem pieces?_unfiltered {n rows : Nat} {b : Bytes} (h : b.length = n * rows) :
    Bytes.pieces? (1 + n) rows (unfiltered n rows b) = some ((chop n rows b).map (0 :: ·)) := by
  have hlength : ∀ r ∈ (chop n rows b).map (0 :: ·), r.length = 1 + n := by
    intro r hr
    obtain ⟨a, ha, rfl⟩ := List.mem_map.1 hr
    rw [List.length_cons, length_of_mem_chop h a ha, Nat.add_comm]
  have hpieces := Bytes.pieces?_flatten _ hlength []
  rwa [List.length_map, length_chop, List.append_nil, ← unfiltered_eq] at hpieces

theorem length_unfiltered {n rows : Nat} {b : Bytes} (h : b.length = n * rows) :
    (unfiltered n rows b).length = (1 + n) * rows := by
  induction rows generalizing b with
  | zero => rfl
  | succ rows ih =>
    rw [unfiltered, List.length_cons, List.length_append, length_take_of_length h,
      ih (length_drop_of_length h), Nat.mul_succ]
    omega

/-- Rows without prediction are as they stand. -/
theorem restore?_unfiltered (n : Nat) (above : Array UInt8) (rows : List Bytes) :
    restore? n above (rows.map (0 :: ·)) = some rows := by
  induction rows generalizing above with
  | nil => rfl
  | cons r rows ih => simp [restore?, predict?, ih]

def Header.plain (w h : Nat) : Header := ⟨w, h, .colorAlpha, 8, false⟩

theorem pixels_toBytes (entry : Nat → Pixel) (key : Option (List Nat)) (l : List Pixel) :
    pixels (.plain w h) entry key ((l.flatMap Pixel.toBytes).map UInt8.toNat) = l := by
  induction l with
  | nil => rfl
  | cons p l ih =>
    simp only [List.flatMap_cons, Pixel.toBytes, List.cons_append, List.nil_append, List.map_cons,
      pixels, Header.plain, channel, if_true, UInt8.ofNat_toNat, List.cons.injEq, true_and]
    exact ih

theorem rowLength_plain (w h n : Nat) : (Header.plain w h).rowLength n = 1 + 4 * n := by
  simp only [Header.rowLength, Header.bits, Header.plain, ColorType.samples]
  omega

theorem width_whole (w h : Nat) : Pass.whole.width (.plain w h) = w := by
  simp [Pass.width, Pass.whole, reached, Header.plain]

theorem height_whole (hw : 0 < w) (h : Nat) : Pass.whole.height (.plain w h) = h := by
  rw [Pass.height, width_whole, if_neg (Nat.ne_of_gt hw)]
  simp [Pass.whole, reached, Header.plain]

theorem passes_plain (hw : 0 < w) (hh : 0 < h) : (Header.plain w h).passes = [.whole] := by
  have hheight : Pass.whole.height (.plain w h) ≠ 0 := by
    rw [height_whole hw]
    omega
  rw [Header.passes, if_neg (by simp [Header.plain])]
  exact List.filter_cons_of_pos (decide_eq_true hheight)

theorem size_plain (hw : 0 < w) (hh : 0 < h) : (Header.plain w h).size = (1 + 4 * w) * h := by
  simp only [Header.size, passes_plain hw hh, List.foldl_cons, List.foldl_nil, Pass.size,
    rowLength_plain, width_whole, height_whole hw, Nat.zero_add]

theorem maxSize_plain (w h : Nat) : (Header.plain w h).maxSize = (1 + 4 * w) * h := by
  rw [Header.maxSize, rowLength_plain]
  exact Nat.one_mul _

theorem passRows?_whole {s : Sheet} (hw : 0 < w) {l : List Pixel} (hl : l.length = w * h) :
    passRows? s (.plain w h) [.whole] (unfiltered (4 * w) h (l.flatMap Pixel.toBytes)) =
      some [chop w h l] := by
  have hbytes : (l.flatMap Pixel.toBytes).length = 4 * w * h := by
    rw [length_flatMap Pixel.length_toBytes, hl, Nat.mul_assoc]
  have hrow : ∀ r ∈ chop w h l, (pixels (.plain w h) s.entry s.opacity
      (Samples.unpack (Header.plain w h).depth (r.flatMap Pixel.toBytes))).take w = r := by
    intro r hr
    rw [Samples.unpack, if_pos (show (Header.plain w h).depth = 8 from rfl), pixels_toBytes]
    exact List.take_of_length_le (Nat.le_of_eq (length_of_mem_chop hl r hr))
  simp only [passRows?, Pass.rows?, width_whole, height_whole hw, rowLength_plain,
    pieces?_unfiltered hbytes, restore?_unfiltered, Option.bind_eq_bind, Option.bind_some,
    Option.pure_def]
  rw [chop_flatMap Pixel.length_toBytes, List.map_map]
  exact congrArg (some [·]) ((List.map_congr_left hrow).trans (List.map_id _))

end Rows

section Files

variable {i : Image} {b : Bytes}

def Header.bytes (w h : Nat) : Bytes := Bytes.ofNatBE 4 w ++ Bytes.ofNatBE 4 h ++ [8, 6, 0, 0, 0]

theorem ofBytes?_bytes {w h : Nat} (hw : 0 < w) (hh : 0 < h) (hw' : w < 256 ^ 4)
    (hh' : h < 256 ^ 4) : Header.ofBytes? (Header.bytes w h) = some (.plain w h) := by
  simp only [Header.ofBytes?, Header.bytes, List.append_assoc,
    Bytes.split?_append (Bytes.length_ofNatBE 4 _), Option.bind_eq_bind, Option.bind_some,
    Bytes.toNatBE_ofNatBE hw', Bytes.toNatBE_ofNatBE hh']
  simp [ColorType.ofCode?, ColorType.depths, hw, hh, Header.plain]

theorem raw?_encode {w h : Nat} (hw : 0 < w) (hh : 0 < h) {b : Bytes}
    (hb : b.length = (1 + 4 * w) * h) :
    raw? (.plain w h) (Header.plain w h).size [Zlib.encode b] = some b := by
  have hdecode := Zlib.decode?_encode b
  rw [hb, ← maxSize_plain] at hdecode
  simp only [raw?, Zlib.decodePieces?, List.nil_append, hdecode, Option.bind_eq_bind,
    Option.bind_some, size_plain hw hh, List.size_toArray, hb, Nat.le_refl, if_true,
    Option.map_some]

def Sheet.plain (w h : Nat) : Sheet := { header := some (.plain w h) }

theorem pixelSize_plain (w h : Nat) : (Sheet.plain w h).pixelSize (.plain w h) = 4 := rfl

theorem image?_plain (w h : Nat) (data : List Bytes) (intact : Bool) :
    (Sheet.plain w h).image? data intact =
      .ok (if Image.maxBytes < 4 * (w * h) then none
        else (if intact then raw? (.plain w h) (Header.plain w h).size data else none).bind
          fun raw => (passRows? (.plain w h) (.plain w h) (Header.plain w h).passes raw).bind
            fun rows => Image.ofPixels? w h rows.flatten.flatten.toArray) := by
  have hheader : (Sheet.plain w h).header = some (.plain w h) := rfl
  have hcolors : (Header.plain w h).colors ≠ .indexed := by simp [Header.plain]
  have hcut : (Sheet.plain w h).cutColor? (.plain w h) = none := rfl
  simp only [Sheet.image?, hheader, hcolors, hcut, pixelSize_plain, false_and, false_or]
  by_cases hsize : Image.maxBytes < 4 * (w * h)
  · rw [if_pos hsize]
    exact if_pos hsize
  · rw [if_neg hsize]
    refine (if_neg hsize).trans ?_
    cases intact <;> rfl

theorem image?_encode (hw : 0 < i.width) (hh : 0 < i.height)
    (hsize : 4 * (i.width * i.height) ≤ Image.maxBytes) :
    (Sheet.plain i.width i.height).image?
      [Zlib.encode (unfiltered (4 * i.width) i.height i.toBytes)] true = .ok (some i) := by
  have hraw := raw?_encode hw hh (length_unfiltered i.length_toBytes)
  have hpixels : [chop i.width i.height i.pixels.toList].flatten.flatten = i.pixels.toList := by
    rw [List.flatten_singleton, flatten_chop i.length_pixels]
  rw [image?_plain, if_neg (Nat.not_lt.2 hsize), if_pos rfl, hraw, Option.bind_some,
    passes_plain hw hh, Image.toBytes, passRows?_whole hw i.length_pixels, Option.bind_some,
    hpixels, Image.ofPixels?_eq_some_iff.2 ⟨rfl, rfl, rfl⟩]

/-- Compressed pixels of a size that can be read stand in one chunk. -/
theorem length_encode_le_maxBody (hw : 0 < i.width)
    (hsize : 4 * (i.width * i.height) ≤ Image.maxBytes) :
    (Zlib.encode (unfiltered (4 * i.width) i.height i.toBytes)).length ≤ maxBody := by
  have hlength := Zlib.length_encode_le (unfiltered (4 * i.width) i.height i.toBytes)
  have hheight : i.height ≤ i.width * i.height := Nat.le_mul_of_pos_left _ hw
  rw [length_unfiltered i.length_toBytes, Nat.add_mul, Nat.one_mul, Nat.mul_assoc] at hlength
  simp only [Image.maxBytes, maxBody] at hsize ⊢
  omega

theorem length_chunk_pos (k body : Bytes) : 0 < (chunk k body).length := by
  simp only [chunk, List.length_append, Bytes.length_ofNatBE]
  omega

theorem front?_encode {data : Bytes} {fuel w h : Nat} (hfuel : 1 < fuel) (hw : 0 < w) (hh : 0 < h)
    (hw' : w < 256 ^ 4) (hh' : h < 256 ^ 4) (rest : Bytes) :
    front? fuel {} (chunk (kind "IHDR") (Header.bytes w h) ++ (dataChunks data ++ rest)) =
      some (.plain w h, dataChunks data ++ rest) := by
  obtain ⟨n, rfl⟩ := Nat.exists_eq_add_of_lt hfuel
  have hkind : (kind "IHDR").length = 4 := by rw [kind_header]; rfl
  have hdata : kind "IHDR" ≠ kind "IDAT" := by
    rw [kind_header, kind_data]
    decide
  have hbody : (Header.bytes w h).length < 256 ^ 4 := by
    simp [Header.bytes, Bytes.length_ofNatBE]
  have htake : Sheet.take? {} (kind "IHDR") (Header.bytes w h) = some (.plain w h) := by
    simp [Sheet.take?, ofBytes?_bytes hw hh hw' hh', Sheet.plain]
  obtain ⟨length, more, hlength, heq⟩ := dataChunks_eq data rest
  rw [front?_chunk hkind hdata hbody, htake, Option.bind_some, heq, Nat.add_comm 1 n,
    front?_data hlength]

theorem pieces_encode {data : Bytes} {fuel : Nat} (hfuel : 1 < fuel)
    (hdata : data.length ≤ maxBody) :
    pieces fuel (dataChunks data ++ chunk (kind "IEND") []) = ([data], true) := by
  obtain ⟨n, rfl⟩ := Nat.exists_eq_add_of_lt hfuel
  have hbody : data.length < 256 ^ 4 := Nat.lt_of_le_of_lt hdata (by decide)
  have hend : pieces (n + 1) (chunk (kind "IEND") [] ++ []) = _ := pieces_end []
  rw [List.append_nil] at hend
  rw [dataChunks, if_neg (Nat.not_lt.2 hdata), pieces_chunk hbody, Nat.add_comm 1 n, hend]

/-- A file made of an image gives it back, unless its samples are too many. -/
theorem decode?_of_encode? (hb : encode? i = some b) (hw : i.width < 256 ^ 4)
    (hh : i.height < 256 ^ 4) :
    decode? b = .ok (if Image.maxBytes < 4 * (i.width * i.height) then none else some i) := by
  rw [encode?] at hb
  split at hb
  · cases hb
  · rename_i hsides
    have hw' : 0 < i.width := by omega
    have hh' : 0 < i.height := by omega
    have hend := length_chunk_pos (kind "IEND") []
    cases hb
    rw [← Header.bytes, List.append_assoc, List.append_assoc, decode?, Bytes.split?_append rfl]
    dsimp only
    rw [if_pos rfl, front?_encode (by simp only [List.length_append]; omega) hw' hh' hw hh]
    dsimp only
    by_cases hsize : Image.maxBytes < 4 * (i.width * i.height)
    · rw [image?_plain]
      simp only [if_pos hsize]
    · rw [if_neg hsize, pieces_encode (by simp only [List.length_append]; omega)
        (length_encode_le_maxBody hw' (Nat.not_lt.1 hsize))]
      exact image?_encode hw' hh' (Nat.not_lt.1 hsize)

end Files

end Png

end Stagecraft
