import Stagecraft.Proofs.Files.Reopening
import Stagecraft.Proofs.Number.Grid
import Stagecraft.Proofs.Raster.Canvas

/-!
Pictures opened at a whole fraction of their size. As long as the resolution divides both sides, a
pixel of the result stands for a square block of the picture, and the positions that lead to it are
computed without rounding. Main statement: each pixel is the one in the middle of its block
(`ofFile_shrinks`), for a block with an even side the one right below and right of the middle.
-/

set_option autoImplicit false

namespace Stagecraft

theorem half_isMultiple {e : Nat} (he : e + 1 = single.scale) : half.IsMultiple 1 e := by
  refine (Binary.ofNat_isMultiple (n := 1) (by decide)).div
    (Binary.ofNat_isMultiple (n := 2) (by decide)) (by decide) ?_ (by decide) (by omega)
  rw [BinaryFormat.one, ← he, Nat.pow_succ, Nat.one_mul, Nat.one_mul]

theorem nearestPlace_mul {n r k : Nat} (hr : 0 < r) (hk : k < n) (h : n * r ≤ 2 ^ 23) :
    nearestPlace (n * r) n k = k * r + r / 2 := by
  obtain ⟨e, he⟩ : ∃ e, e + 1 = single.scale := ⟨148, rfl⟩
  have hn : n ≤ n * r := Nat.le_mul_of_pos_right n hr
  have hr' : r ≤ n * r := Nat.le_mul_of_pos_left r (Nat.zero_lt_of_lt hk)
  have hblocks : k * r + r ≤ n * r := by
    rw [← Nat.succ_mul]
    exact Nat.mul_le_mul_right r hk
  have hcentre : (2 * k + 1) * r = 2 * (k * r) + r := by rw [Nat.add_mul, Nat.mul_assoc, Nat.one_mul]
  have hratio : (.ofNat (n * r) / .ofNat n : Scalar).IsMultiple r single.scale := by
    refine (Binary.ofNat_isMultiple (by omega)).div (Binary.ofNat_isMultiple (by omega))
      (Nat.zero_lt_of_lt hk) ?_ (by omega) (Nat.le_refl _)
    rw [Nat.mul_comm n, Nat.mul_right_comm]
    rfl
  have hplace : (.ofNat k + half : Scalar).IsMultiple (2 * k + 1) e := by
    have hwhole := Binary.ofNat_isMultiple (n := k) (by omega)
    rw [← he] at hwhole
    exact hwhole.finer.add (half_isMultiple he) (by omega) (by omega)
  have hword : signedWord64.clamp ((k * r + r / 2 : Nat) : Int) = (k * r + r / 2 : Nat) :=
    WordRange.clamp_of_mem (by simp only [signedWord64]; omega) (by simp only [signedWord64]; omega)
  rw [nearestPlace, placeUnder, (hplace.mul hratio (by omega) (by omega)).toWord_down he, hcentre,
    Nat.mul_add_div (by decide), hword, Int.toNat_natCast]
  omega

namespace Image

open Canvas

theorem size_columnsFor (i : Image) (width height start count : Nat) :
    (i.columnsFor width height start count).size = count := by
  unfold columnsFor nearestPlaces
  split <;> simp

theorem size_rowsFor (i : Image) (width height start count : Nat) :
    (i.rowsFor width height start count).size = count := by
  unfold rowsFor nearestPlaces
  split <;> simp

theorem resize_width (i : Image) (width height : Nat) : (i.resize width height).width = width :=
  i.size_columnsFor width height 0 width

theorem resize_height (i : Image) (width height : Nat) : (i.resize width height).height = height :=
  i.size_rowsFor width height 0 height

theorem get?_resize (i : Image) {width height x y : Nat} (hx : x < width) (hy : y < height) :
    (i.resize width height).get? x y =
      some (i.get (placeAt (i.hasSides width height) i.width width x)
        (placeAt (i.hasSides width height) i.height height y)) := by
  rw [resize, select, get?_generate _ (by rwa [size_columnsFor]) (by rwa [size_rowsFor]),
    columnsFor_getD i _ _ _ hx, rowsFor_getD i _ _ _ hy, Nat.zero_add, Nat.zero_add]

/-- The image `j` is `i` at one part in `r` of its size: one pixel for each block. -/
structure Shrunk (r : Nat) (i j : Image) : Prop where
  width : j.width = i.width / r
  height : j.height = i.height / r
  /-- The pixel is one of the image and stands in the middle of its block. -/
  pixel : ∀ x y, x < j.width → y < j.height →
    ∃ p, i.get? (x * r + r / 2) (y * r + r / 2) = some p ∧ j.get? x y = some p
  full : r = 1 → j = i

/-- The resolution divides a side that is there and is not too long. -/
structure Divides (r side : Nat) : Prop where
  dvd : r ∣ side
  pos : 0 < side
  le : side ≤ 2 ^ 23

theorem Divides.resolution_pos {r side : Nat} (h : Divides r side) : 0 < r :=
  Nat.pos_of_dvd_of_pos h.dvd h.pos

theorem Divides.middle_lt {r side k : Nat} (h : Divides r side) (hk : k < side / r) :
    k * r + r / 2 < side := by
  have hr := h.resolution_pos
  have hblocks := Nat.mul_le_mul_right r hk
  rw [Nat.div_mul_cancel h.dvd, Nat.succ_mul] at hblocks
  omega

theorem Divides.nearestPlace_eq {r side k : Nat} (h : Divides r side) (hk : k < side / r) :
    nearestPlace side (side / r) k = k * r + r / 2 := by
  have hmul := Nat.div_mul_cancel h.dvd
  have hplace := nearestPlace_mul h.resolution_pos hk (by rw [hmul]; exact h.le)
  rwa [hmul] at hplace

theorem downscale_shrunk {i : Image} {r : Nat} (hw : Divides r i.width) (hh : Divides r i.height) :
    Shrunk r i (i.downscale r) := by
  have hr := hw.resolution_pos
  have hsome {x y : Nat} (hx : x < i.width / r) (hy : y < i.height / r) :
      i.get? (x * r + r / 2) (y * r + r / 2) =
        some (i.get (x * r + r / 2) (y * r + r / 2)) :=
    get?_eq_get (hw.middle_lt hx) (hh.middle_lt hy)
  by_cases hone : r = 1
  · subst hone
    refine ⟨(Nat.div_one _).symm, (Nat.div_one _).symm, fun x y hx hy => ?_, fun _ => rfl⟩
    have hpixel := hsome (x := x) (y := y) (by rwa [Nat.div_one]) (by rwa [Nat.div_one])
    simp only [Nat.mul_one, Nat.reduceDiv, Nat.add_zero] at hpixel ⊢
    exact ⟨_, hpixel, hpixel⟩
  · have hwide : 0 < i.width / r := Nat.div_pos (Nat.le_of_dvd hw.pos hw.dvd) hr
    have hhigh : 0 < i.height / r := Nat.div_pos (Nat.le_of_dvd hh.pos hh.dvd) hr
    have hsmall : i.width / r < i.width := Nat.div_lt_self hw.pos (by omega)
    have hsides : i.hasSides (i.width / r) (i.height / r) = false := by
      simp [hasSides, Nat.ne_of_gt hsmall]
    have heq : i.downscale r = i.resize (i.width / r) (i.height / r) := by
      rw [downscale, if_neg (by omega), Nat.max_eq_left hwide, Nat.max_eq_left hhigh]
    rw [heq]
    refine ⟨resize_width .., resize_height .., fun x y hx hy => ?_, fun h => absurd h hone⟩
    rw [resize_width] at hx
    rw [resize_height] at hy
    refine ⟨_, hsome hx hy, ?_⟩
    rw [get?_resize i hx hy, hsides]
    simp only [placeAt, Bool.false_eq_true, if_false, hw.nearestPlace_eq hx, hh.nearestPlace_eq hy]

end Image

section Opening

variable {ν : Type} {d : Disk} {path : String} {i : Image} {r : Nat}

theorem Disk.kind?_of_picture? (h : d.picture? path = .ok (some i)) :
    Path.kind? path ≠ some "svg" := by
  intro hkind
  simp [picture?, PictureFormat.ofPath?, hkind] at h

theorem Costume.imageOf_of_picture? (hr : 0 < r) (h : d.picture? path = .ok (some i)) :
    imageOf d path r = .ok (i.downscale r) := by
  simp [imageOf, Nat.ne_of_gt hr, Disk.kind?_of_picture? h, h]

/-- A picture whose sides the resolution divides is opened, and the costume shows one pixel for each
of its blocks. -/
theorem Costume.ofFile_shrinks (ν : Type) (g : Gallery) (h : d.picture? path = .ok (some i))
    (hw : Image.Divides r i.width) (hh : Image.Divides r i.height) :
    ∃ c j, ((ofFile d path r : Act ν _ _ _) g).result = .ok c ∧
      ((ofFile d path r : Act ν _ _ _) g).state.get? c.image = some j ∧ Image.Shrunk r i j := by
  obtain ⟨hresult, hstate⟩ :=
    ofFile_of_imageOf (ν := ν) g (imageOf_of_picture? hw.resolution_pos h)
  refine ⟨_, i.downscale r, hresult, ?_, Image.downscale_shrunk hw hh⟩
  rw [hstate]
  exact g.get?_ready _

/-- Two blocks of nine pixels side by side, and each pixel has a colour of its own. -/
def mosaic : Image := .generate 6 3 fun x y => ⟨x.toUInt8, y.toUInt8, 7, 255⟩

theorem Costume.ofFile_shrinks_mosaic :
    ∃ d, Disk.empty.save "mosaic.png" mosaic = (.ok (), d) ∧
      ∃ c j, ((ofFile d "mosaic.png" 3 : Act Unit _ _ _) {}).result = .ok c ∧
        ((ofFile d "mosaic.png" 3 : Act Unit _ _ _) {}).state.get? c.image = some j ∧
        j.width = 2 ∧ j.height = 1 ∧ j.get? 0 0 = some ⟨1, 1, 7, 255⟩ ∧
        j.get? 1 0 = some ⟨4, 1, 7, 255⟩ := by
  have hpath : (Disk.empty.place? "mosaic.png").isSome := by decide +kernel
  have hkind : Path.kind? "mosaic.png" = some "png" := by decide +kernel
  have hformat : PictureFormat.ofPath? "mosaic.png" = some .png := by
    simp [PictureFormat.ofPath?, hkind]
  have hexact : PictureFormat.IsExact .png := .inl rfl
  obtain ⟨b, hb⟩ := Option.isSome_iff_exists.1
    ((PictureFormat.isSome_encode?_iff (i := mosaic) hexact (by decide) (by decide)).2 (by simp))
  obtain ⟨hsave, hpicture⟩ := Disk.save_of_encode? hpath hformat hb
  generalize Disk.empty.save "mosaic.png" mosaic = saved at hsave hpicture
  obtain ⟨result, d⟩ := saved
  have hopen : d.picture? "mosaic.png" = .ok (some mosaic) := by
    refine hpicture.trans ((PictureFormat.decode?_eq_iff hexact hb (by decide) (by decide)
      (by decide) (by decide)).2 ⟨by decide, ?_⟩)
    rintro ⟨⟩
  obtain ⟨c, j, hresult, hstate, hshrunk⟩ := ofFile_shrinks Unit {} hopen (r := 3)
    ⟨by decide, by decide, by decide⟩ ⟨by decide, by decide, by decide⟩
  have hwidth : j.width = 2 := hshrunk.width
  have hheight : j.height = 1 := hshrunk.height
  refine ⟨d, Prod.ext hsave rfl, c, j, hresult, hstate, hwidth, hheight, ?_, ?_⟩
  · obtain ⟨p, hp, hj⟩ := hshrunk.pixel 0 0 (by omega) (by omega)
    rw [hj, ← hp]
    decide +kernel
  · obtain ⟨p, hp, hj⟩ := hshrunk.pixel 1 0 (by omega) (by omega)
    rw [hj, ← hp]
    decide +kernel

end Opening

end Stagecraft
