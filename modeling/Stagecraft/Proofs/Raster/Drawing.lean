import Stagecraft.Proofs.Number.Order
import Stagecraft.Proofs.Raster.Canvas
import Stagecraft.Surface

/-!
Images drawn at any rectangle. A rectangle that is neither empty nor without bounds is rounded to a
frame of whole pixels. Main statement: drawing changes the pixels of the canvas in the frame and no
other, and lays over each of them the pixel of the image that is seen there, stretched or not
(`drawAct_drawn`).
-/

set_option autoImplicit false

namespace Stagecraft

theorem nearestPlace_lt {old : Nat} (h : 0 < old) (new k : Nat) : nearestPlace old new k < old := by
  unfold nearestPlace placeUnder
  omega

theorem toNat_word32_clamp (n : Nat) : (word32.clamp n).toNat = min n (2 ^ 32 - 1) := by
  simp only [WordRange.clamp, word32]
  omega

namespace Canvas

open Image

/-- A size that is more than zero is rounded to a whole number that is not negative. -/
theorem rounded?_of_pos {x : Scalar} (hpos : ¬x ≤ 0) (hfin : x.isFinite = true) :
    ∃ k : Nat, rounded? x = some (k : Int) := by
  cases x with
  | nan => cases hfin
  | infinite a => cases hfin
  | finite a u r =>
    have hnonneg : ¬Binary.signed a u < 0 := by
      rw [Binary.le_iff_of_key rfl Binary.key_zero_literal] at hpos
      exact fun hlt => hpos (Int.le_of_lt hlt)
    refine ⟨(2 * (Binary.signed a u).natAbs + single.one) / (2 * single.one), ?_⟩
    simp only [rounded?, Rounding.divide, hnonneg, decide_false]
    rfl

theorem rounded?_of_isWhole {x : Scalar} {n : Int} (h : x.IsWhole n) : rounded? x = some n := by
  obtain ⟨a, u, r, rfl, hu⟩ := h
  rw [rounded?, hu, Rounding.divide_mul _ _ single.one_pos]

/-- A rectangle of whole pixels, which may lie beside the canvas. -/
structure Frame where
  x : Int
  y : Int
  width : Nat
  height : Nat

namespace Frame

/-- The frame is the rectangle with its corner and its sides rounded. -/
structure Rounds (f : Frame) (r : Rect) : Prop where
  x : rounded? r.origin.x = some f.x
  y : rounded? r.origin.y = some f.y
  width : rounded? r.size.x = some (f.width : Int)
  height : rounded? r.size.y = some (f.height : Int)

def Holds (f : Frame) (px py : Nat) : Prop := Under f.x f.width px ∧ Under f.y f.height py

instance (f : Frame) (px py : Nat) : Decidable (f.Holds px py) :=
  inferInstanceAs (Decidable (_ ∧ _))

/-- The pixel of the image that is seen at a place of the canvas. An image that has the sides of
the frame is seen as it is, and any other one through the nearest of its places. -/
def sample (f : Frame) (i : Image) (px py : Nat) : Pixel :=
  let x := (px - f.x).toNat
  let y := (py - f.y).toNat
  if i.width = f.width ∧ i.height = f.height then i.get x y
  else i.get (nearestPlace i.width f.width x) (nearestPlace i.height f.height y)

variable {f : Frame} {r : Rect}

theorem exists_rounds (hempty : r.isEmpty = false) (hfin : r.isFinite = true) :
    ∃ f : Frame, f.Rounds r := by
  simp only [Rect.isEmpty, Bool.or_eq_false_iff, decide_eq_false_iff_not] at hempty
  simp only [Rect.isFinite, Point.isFinite, Bool.and_eq_true] at hfin
  obtain ⟨⟨hx, hy⟩, hw, hh⟩ := hfin
  rw [isFinite_eq, Option.isSome_iff_exists] at hx hy
  obtain ⟨x, hx⟩ := hx
  obtain ⟨y, hy⟩ := hy
  obtain ⟨width, hwidth⟩ := rounded?_of_pos hempty.1 hw
  obtain ⟨height, hheight⟩ := rounded?_of_pos hempty.2 hh
  exact ⟨⟨x, y, width, height⟩, hx, hy, hwidth, hheight⟩

theorem Rounds.unique {g : Frame} (hf : f.Rounds r) (hg : g.Rounds r) : f = g := by
  obtain ⟨x, y, width, height⟩ := f
  obtain ⟨x', y', width', height'⟩ := g
  obtain rfl := Option.some.inj (hf.x.symm.trans hg.x)
  obtain rfl := Option.some.inj (hf.y.symm.trans hg.y)
  obtain rfl := Int.ofNat.inj (Option.some.inj (hf.width.symm.trans hg.width))
  obtain rfl := Int.ofNat.inj (Option.some.inj (hf.height.symm.trans hg.height))
  rfl

theorem sample_eq (f : Frame) (i : Image) (px py : Nat) :
    f.sample i px py =
      i.get (placeAt (i.hasSides f.width f.height) i.width f.width (px - f.x).toNat)
        (placeAt (i.hasSides f.width f.height) i.height f.height (py - f.y).toNat) := by
  by_cases hsides : i.width = f.width ∧ i.height = f.height
  · have hsides' : i.hasSides f.width f.height = true := by simpa [hasSides] using hsides
    simp only [sample, placeAt, hsides, hsides', and_self, if_true]
  · have hsides' : i.hasSides f.width f.height = false := by simpa [hasSides] using hsides
    simp only [sample, placeAt, hsides, hsides', Bool.false_eq_true, if_false]

theorem sample_mem {i : Image} (hw : i.width ≠ 0) (hh : i.height ≠ 0) {px py : Nat}
    (h : f.Holds px py) :
    ∃ x y, x < i.width ∧ y < i.height ∧ i.get? x y = some (f.sample i px py) := by
  have hseen (x y : Nat) (hx : x < i.width) (hy : y < i.height)
      (he : f.sample i px py = i.get x y) :
      ∃ x y, x < i.width ∧ y < i.height ∧ i.get? x y = some (f.sample i px py) :=
    ⟨x, y, hx, hy, by rw [he, get?_eq_get hx hy]⟩
  obtain ⟨⟨hleft, hright⟩, htop, hbottom⟩ := h
  by_cases hsides : i.width = f.width ∧ i.height = f.height
  · refine hseen (px - f.x).toNat (py - f.y).toNat ?_ ?_ (if_pos hsides)
    · omega
    · omega
  · exact hseen _ _ (nearestPlace_lt (Nat.pos_of_ne_zero hw) _ _)
      (nearestPlace_lt (Nat.pos_of_ne_zero hh) _ _) (if_neg hsides)

theorem sample_of_empty {i : Image} (h : i.width = 0 ∨ i.height = 0) (px py : Nat) :
    f.sample i px py = .transparent := by
  have hnone (x y : Nat) : i.get x y = .transparent := by
    rw [Image.get, get?_eq_none (by omega), Option.getD_none]
  rw [sample_eq, hnone]

/-- The frame as the canvas draws it, with coordinates of 64 bits and sides of 32. -/
theorem draw_eq (h : f.Rounds r) (hempty : r.isEmpty = false) (hfin : r.isFinite = true)
    (c : Canvas) (i : Image) :
    c.draw i r = c.overlay i (min f.width (2 ^ 32 - 1)) (min f.height (2 ^ 32 - 1))
      (signedWord64.clamp f.x) (signedWord64.clamp f.y) := by
  simp only [draw, hempty, hfin, Bool.not_true, Bool.or_false, Bool.false_eq_true, if_false,
    toWord_eq h.x, toWord_eq h.y, toWord_eq h.width, toWord_eq h.height, toNat_word32_clamp]

end Frame

theorem rounds_of_sides {i : Image} (hi : i.Measurable) {p : Point} {x y : Int}
    (hx : rounded? p.x = some x) (hy : rounded? p.y = some y) (hw : i.width ≠ 0)
    (hh : i.height ≠ 0) :
    let r : Rect := ⟨p, ⟨.ofNat i.width, .ofNat i.height⟩⟩
    r.isEmpty = false ∧ r.isFinite = true ∧ Frame.Rounds ⟨x, y, i.width, i.height⟩ r := by
  have hwidth := Binary.ofNat_isWhole hi.1
  have hheight := Binary.ofNat_isWhole hi.2
  refine ⟨?_, ?_, hx, hy, ?_, ?_⟩
  · simp only [Rect.isEmpty, hwidth.le_iff Binary.isWhole_zero, hheight.le_iff Binary.isWhole_zero,
      Bool.or_eq_false_iff, decide_eq_false_iff_not]
    omega
  · simp only [Rect.isFinite, Point.isFinite, isFinite_eq p.x, isFinite_eq p.y, hx, hy,
      hwidth.isFinite_eq, hheight.isFinite_eq, Option.isSome_some, Bool.and_self]
  · simp only [rounded?_of_isWhole hwidth]
  · simp only [rounded?_of_isWhole hheight]

theorem get?_draw_outside {c : Canvas} (hw : c.width < 2 ^ 32) (hh : c.height < 2 ^ 32) {r : Rect}
    {f : Frame} (h : f.Rounds r) (hempty : r.isEmpty = false) (hfin : r.isFinite = true)
    (i : Image) {px py : Nat} (hout : ¬f.Holds px py) :
    (c.draw i r).get? px py = c.get? px py := by
  by_cases hin : px < c.width ∧ py < c.height
  · rw [Frame.draw_eq h hempty hfin, get?_overlay, if_neg]
    rw [under_clamp_iff (by omega) (by omega), under_clamp_iff (by omega) (by omega)]
    -- sides that were cut down hold less than the frame does
    intro hcut
    refine hout ?_
    simp only [Frame.Holds, Under] at hcut ⊢
    omega
  · rw [get?_eq_none hin, get?_eq_none]
    rwa [draw_width, draw_height]

theorem get?_draw_inside {c : Canvas} (hw : c.width < 2 ^ 32) (hh : c.height < 2 ^ 32) {r : Rect}
    {f : Frame} (h : f.Rounds r) (hempty : r.isEmpty = false) (hfin : r.isFinite = true)
    (hfw : f.width < 2 ^ 32) (hfh : f.height < 2 ^ 32) (i : Image) {px py : Nat}
    (hx : px < c.width) (hy : py < c.height) (hheld : f.Holds px py) :
    (c.draw i r).get? px py = some ((c.get px py).blend (f.sample i px py)) := by
  obtain ⟨hcolumn, hrow⟩ := hheld
  rw [Frame.draw_eq h hempty hfin, Nat.min_eq_left (by omega), Nat.min_eq_left (by omega),
    get?_overlay, clamp_of_under (by omega) (by omega) hcolumn,
    clamp_of_under (by omega) (by omega) hrow, if_pos ⟨hcolumn, hrow⟩, get?_eq_get hx hy,
    Frame.sample_eq, Option.map_some]

theorem get?_draw {c : Canvas} (hc : c.Measurable) {i : Image} {p : Point} {l : Layer}
    (hl : Layer.ofPoint? i p = some l) (hi : i.Measurable) (px py : Nat) :
    (c.draw i ⟨p, ⟨.ofNat i.width, .ofNat i.height⟩⟩).get? px py =
      (c.get? px py).map (l.cover px py) := by
  obtain ⟨hx, hy, rfl⟩ := Layer.ofPoint?_eq_some hl
  have hkept (hout : ¬(Under l.x l.image.width px ∧ Under l.y l.image.height py)) :
      (c.get? px py).map (l.cover px py) = c.get? px py := by
    rw [funext (Layer.cover_of_not_under hout)]
    exact Option.map_id_apply
  by_cases hnone : l.image.width = 0 ∨ l.image.height = 0
  · rw [draw_of_empty p hnone, hkept]
    simp only [Under]
    omega
  · obtain ⟨hempty, hfin, hf⟩ := rounds_of_sides hi hx hy (by omega) (by omega)
    have hword {n : Nat} (hn : n ≤ 2 ^ 24) : n < 2 ^ 32 := Nat.lt_of_le_of_lt hn (by decide)
    have hw := hword hc.1
    have hh := hword hc.2
    by_cases hheld : Under l.x l.image.width px ∧ Under l.y l.image.height py
    · by_cases hin : px < c.width ∧ py < c.height
      · rw [get?_draw_inside hw hh hf hempty hfin (hword hi.1) (hword hi.2) _ hin.1 hin.2 hheld,
          get?_eq_get hin.1 hin.2, Option.map_some, Layer.cover_of_under hheld.1 hheld.2,
          Frame.sample, if_pos ⟨rfl, rfl⟩]
      · rw [get?_eq_none hin, get?_eq_none (by rwa [draw_width, draw_height]), Option.map_none]
    · rw [get?_draw_outside hw hh hf hempty hfin _ hheld, hkept hheld]

/-- What drawing an image at a frame makes of a canvas. Sides of `2 ^ 32` pixels and more are beyond
what a picture can have. -/
structure Frame.Shown (f : Frame) (i : Image) (c d : Canvas) : Prop where
  outside : ∀ px py, ¬f.Holds px py → d.get? px py = c.get? px py
  inside : f.width < 2 ^ 32 → f.height < 2 ^ 32 → ∀ px py, px < c.width → py < c.height →
    f.Holds px py → d.get? px py = some ((c.get px py).blend (f.sample i px py))
  /-- What is seen of an image is one of its pixels. -/
  sampled : i.width ≠ 0 → i.height ≠ 0 → ∀ px py, f.Holds px py →
    ∃ x y, x < i.width ∧ y < i.height ∧ i.get? x y = some (f.sample i px py)
  unseen : i.width = 0 ∨ i.height = 0 → ∀ px py, f.sample i px py = .transparent

structure Drawn (i : Image) (dest : Rect) (c d : Canvas) : Prop where
  width : d.width = c.width
  height : d.height = c.height
  idle : dest.isEmpty = true ∨ dest.isFinite = false → d = c
  framed : dest.isEmpty = false → dest.isFinite = true →
    ∃ f : Frame, f.Rounds dest ∧ f.Shown i c d

/-- Whatever the rectangle is, drawing comes to an end and makes of the canvas what it should. -/
theorem drawAct_drawn {ν ε : Type} {c : Canvas} (hw : c.width < 2 ^ 32) (hh : c.height < 2 ^ 32)
    (i : Image) (dest : Rect) :
    (Surface.drawAct i dest : Act ν ε Canvas Unit) c = ⟨.ok (), c.draw i dest, []⟩ ∧
      Drawn i dest c (c.draw i dest) := by
  refine ⟨rfl, draw_width c i dest, draw_height c i dest, ?_, fun hempty hfin => ?_⟩
  · intro hidle
    exact draw_of_idle hidle c i
  · obtain ⟨f, hf⟩ := Frame.exists_rounds hempty hfin
    refine ⟨f, hf, ?_, ?_, ?_, ?_⟩
    · intro px py hout
      exact get?_draw_outside hw hh hf hempty hfin i hout
    · intro hfw hfh px py hx hy hheld
      exact get?_draw_inside hw hh hf hempty hfin hfw hfh i hx hy hheld
    · intro hiw hih px py hheld
      exact Frame.sample_mem hiw hih hheld
    · intro hnone px py
      exact Frame.sample_of_empty hnone px py

def ribbon : Image := ⟨2, 1, #[⟨1, 2, 3, 255⟩, ⟨4, 5, 6, 255⟩], rfl⟩

/-- A rectangle that begins beside the canvas and is rounded on all sides. -/
def ledge : Rect := .make (Binary.neg (3 / 2)) (1 / 2) (17 / 4) (3 / 2)

theorem ledge_rounds : Frame.Rounds ⟨-2, 1, 4, 2⟩ ledge := by
  constructor <;> decide +kernel

/-- The ribbon is stretched to twice its sides, and the canvas shows the half that lies on it. -/
theorem drawAct_drawn_ledge :
    let d := draw (Image.blank 3 2) ribbon ledge
    d.get? 0 1 = some ⟨4, 5, 6, 255⟩ ∧ d.get? 1 1 = some ⟨4, 5, 6, 255⟩ ∧
      d.get? 2 1 = some .transparent ∧ d.get? 0 0 = some .transparent := by
  obtain ⟨-, hdrawn⟩ :=
    drawAct_drawn (ν := Empty) (ε := Empty) (c := .blank 3 2) (by decide) (by decide) ribbon ledge
  obtain ⟨f, hf, hshown⟩ := hdrawn.framed (by decide +kernel) (by decide +kernel)
  obtain rfl := hf.unique ledge_rounds
  have hinside := hshown.inside (by decide) (by decide)
  refine ⟨?_, ?_, ?_, ?_⟩
  · rw [hinside 0 1 (by decide) (by decide) (by decide)]
    decide +kernel
  · rw [hinside 1 1 (by decide) (by decide) (by decide)]
    decide +kernel
  · rw [hshown.outside 2 1 (by decide)]
    decide +kernel
  · rw [hshown.outside 0 0 (by decide)]
    decide +kernel

end Canvas

end Stagecraft
