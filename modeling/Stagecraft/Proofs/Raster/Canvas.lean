import Stagecraft.Proofs.Number.Whole
import Stagecraft.Proofs.Raster.Image
import Stagecraft.Raster.Canvas

/-!
Canvases seen pixel by pixel. On canvases that single precision can measure, a whole rectangle is
cleared to the pixel (`get?_clear`). A canvas of any size is cleared over its bounds as far as single
precision takes them to reach (`get?_clear_bounds_measured`), and an image is laid over it at whole
coordinates (`get?_overlay`).
-/

set_option autoImplicit false

namespace Stagecraft

/-- Single precision holds the sides, and all whole numbers below them. -/
def Image.Measurable (i : Image) : Prop := i.width ≤ 2 ^ 24 ∧ i.height ≤ 2 ^ 24

instance (i : Image) : Decidable i.Measurable := inferInstanceAs (Decidable (_ ∧ _))

/-- A side of `n` pixels as single precision measures it. -/
def measured (n : Nat) : Nat := single.roundUnits n 1

theorem measured_of_le {n : Nat} (hn : n ≤ 2 ^ 24) : measured n = n := single.roundUnits_of_le hn

/-- The place lies between the ends of an axis that starts at `x`; the extent may be negative. -/
def Between (x w : Int) (p : Nat) : Prop := min x (x + w) ≤ p ∧ p < max x (x + w)

instance (x w : Int) (p : Nat) : Decidable (Between x w p) := inferInstanceAs (Decidable (_ ∧ _))

theorem between_iff {x w : Int} {n p : Nat} (hp : p < n) :
    Between x w p ↔ max (min x (x + w)) 0 ≤ p ∧ p < min (max x (x + w)) n := by
  unfold Between
  omega

namespace Rect

/-- All four components are whole numbers. -/
structure IsWhole (r : Rect) (x y w h : Int) : Prop where
  left : r.origin.x.IsWhole x
  top : r.origin.y.IsWhole y
  width : r.size.x.IsWhole w
  height : r.size.y.IsWhole h

theorem unfoldAxis_isWhole {s e : Scalar} {x w : Int} (hs : s.IsWhole x) (he : e.IsWhole w)
    (h : (x + w).natAbs ≤ 2 ^ 24) :
    (unfoldAxis s e).1.IsWhole (min x (x + w)) ∧ (unfoldAxis s e).2.IsWhole w.natAbs := by
  unfold unfoldAxis
  split
  · have hw : w < 0 := (he.lt_iff Binary.isWhole_zero).1 ‹_›
    rw [Int.min_eq_right (by omega), show (w.natAbs : Int) = -w by omega]
    exact ⟨hs.add he h, he.neg⟩
  · have hw : ¬w < 0 := fun hlt => ‹¬e < 0› ((he.lt_iff Binary.isWhole_zero).2 hlt)
    rw [Int.min_eq_left (by omega), show (w.natAbs : Int) = w by omega]
    exact ⟨hs, he⟩

theorem normalized_isWhole {r : Rect} {x y w h : Int} (hr : r.IsWhole x y w h)
    (hw : (x + w).natAbs ≤ 2 ^ 24) (hh : (y + h).natAbs ≤ 2 ^ 24) :
    r.normalized.IsWhole (min x (x + w)) (min y (y + h)) w.natAbs h.natAbs := by
  obtain ⟨hx, hw'⟩ := unfoldAxis_isWhole hr.left hr.width hw
  obtain ⟨hy, hh'⟩ := unfoldAxis_isWhole hr.top hr.height hh
  exact ⟨hx, hy, hw', hh'⟩

theorem farCorner_isWhole {r : Rect} {x y w h : Int} (hr : r.IsWhole x y w h)
    (hw : (x + w).natAbs ≤ 2 ^ 24) (hh : (y + h).natAbs ≤ 2 ^ 24) :
    r.farCorner.x.IsWhole (x + w) ∧ r.farCorner.y.IsWhole (y + h) :=
  ⟨hr.left.add hr.width hw, hr.top.add hr.height hh⟩

theorem intersect_isWhole {r s : Rect} {x y w h : Int} {m n : Nat} (hr : r.IsWhole x y w h)
    (hs : s.IsWhole 0 0 m n) (hx : x.natAbs ≤ 2 ^ 24) (hw : (x + w).natAbs ≤ 2 ^ 24)
    (hy : y.natAbs ≤ 2 ^ 24) (hh : (y + h).natAbs ≤ 2 ^ 24) (hm : m ≤ 2 ^ 24) (hn : n ≤ 2 ^ 24) :
    let x₀ := max (min x (x + w)) 0
    let y₀ := max (min y (y + h)) 0
    let x₁ := min (max x (x + w)) m
    let y₁ := min (max y (y + h)) n
    r.intersect s = none ∧ (x₁ ≤ x₀ ∨ y₁ ≤ y₀) ∨
      ∃ t, r.intersect s = some t ∧ x₀ < x₁ ∧ y₀ < y₁ ∧
        t.IsWhole x₀ y₀ (x₁ - x₀) (y₁ - y₀) := by
  intro x₀ y₀ x₁ y₁
  have hr' := normalized_isWhole hr hw hh
  have hs' := normalized_isWhole hs (by omega) (by omega)
  obtain ⟨hrx, hry⟩ := farCorner_isWhole hr' (by omega) (by omega)
  obtain ⟨hsx, hsy⟩ := farCorner_isWhole hs' (by omega) (by omega)
  have hx₀ := (hr'.left.max hs'.left).of_eq (n := x₀) (by omega)
  have hy₀ := (hr'.top.max hs'.top).of_eq (n := y₀) (by omega)
  have hx₁ := (hrx.min hsx).of_eq (n := x₁) (by omega)
  have hy₁ := (hry.min hsy).of_eq (n := y₁) (by omega)
  have hdx := hx₁.sub hx₀ (by omega)
  have hdy := hy₁.sub hy₀ (by omega)
  simp only [intersect, hdx.le_iff Binary.isWhole_zero, hdy.le_iff Binary.isWhole_zero]
  by_cases hempty : x₁ - x₀ ≤ 0 ∨ y₁ - y₀ ≤ 0
  · rw [if_pos hempty]
    exact .inl ⟨rfl, by omega⟩
  · rw [if_neg hempty]
    exact .inr ⟨_, rfl, by omega, by omega, hx₀, hy₀, hdx, hdy⟩

theorem ofSides_isWhole {m n : Nat} (hm : m ≤ 2 ^ 24) (hn : n ≤ 2 ^ 24) :
    (ofSides m n).IsWhole 0 0 m n := by
  constructor <;> simp only [ofSides, make]
  · exact Binary.isWhole_zero
  · exact Binary.isWhole_zero
  · exact Binary.ofNat_isWhole hm
  · exact Binary.ofNat_isWhole hn

theorem ofSides_isWhole_measured {m n : Nat} (hm : m ≤ 2 ^ 32) (hn : n ≤ 2 ^ 32) :
    (ofSides m n).IsWhole 0 0 (measured m) (measured n) := by
  constructor <;> simp only [ofSides, make]
  · exact Binary.isWhole_zero
  · exact Binary.isWhole_zero
  · exact Binary.ofNat_isWhole_rounded hm
  · exact Binary.ofNat_isWhole_rounded hn

theorem unfoldAxis_of_nonneg {e : Scalar} {w : Int} (he : e.IsWhole w) (hw : 0 ≤ w) (s : Scalar) :
    unfoldAxis s e = (s, e) := by
  have hlt : ¬e < 0 := by
    rw [he.lt_iff Binary.isWhole_zero]
    omega
  rw [unfoldAxis, if_neg hlt]

section AtOrigin

-- whatever is added to the origin or taken from it is zero, so nothing is rounded
variable {r : Rect} {w h : Nat} (hr : r.IsWhole 0 0 w h)
include hr

theorem farCorner_of_origin : r.farCorner.x.IsWhole w ∧ r.farCorner.y.IsWhole h :=
  ⟨hr.width.zero_add hr.left, hr.height.zero_add hr.top⟩

theorem normalized_of_origin : r.normalized = r := by
  rw [normalized, unfoldAxis_of_nonneg hr.width (Int.natCast_nonneg w),
    unfoldAxis_of_nonneg hr.height (Int.natCast_nonneg h)]

theorem intersect_self_of_origin :
    r.intersect r = none ∧ (w = 0 ∨ h = 0) ∨
      ∃ t, r.intersect r = some t ∧ t.IsWhole 0 0 w h := by
  obtain ⟨hfarX, hfarY⟩ := farCorner_of_origin hr
  have hx₀ := (hr.left.max hr.left).of_eq (n := 0) (by omega)
  have hy₀ := (hr.top.max hr.top).of_eq (n := 0) (by omega)
  have hdx := ((hfarX.min hfarX).of_eq (n := w) (by omega)).sub_zero hx₀
  have hdy := ((hfarY.min hfarY).of_eq (n := h) (by omega)).sub_zero hy₀
  simp only [intersect, normalized_of_origin hr, hdx.le_iff Binary.isWhole_zero,
    hdy.le_iff Binary.isWhole_zero]
  by_cases hempty : (w : Int) ≤ 0 ∨ (h : Int) ≤ 0
  · rw [if_pos hempty]
    exact .inl ⟨rfl, by omega⟩
  · rw [if_neg hempty]
    exact .inr ⟨_, rfl, hx₀, hy₀, hdx, hdy⟩

end AtOrigin

end Rect

namespace Canvas

open Image

theorem touched_holds_iff {r : Rect} {x₀ y₀ x₁ y₁ : Int}
    (hr : r.IsWhole x₀ y₀ (x₁ - x₀) (y₁ - y₀)) (hx₀ : 0 ≤ x₀) (hy₀ : 0 ≤ y₀) (hx : x₀ ≤ x₁)
    (hy : y₀ ≤ y₁) (hx₁ : x₁ ≤ 2 ^ 24) (hy₁ : y₁ ≤ 2 ^ 24) (px py : Nat) :
    (touched r).Holds px py ↔ (x₀ ≤ px ∧ px < x₁) ∧ y₀ ≤ py ∧ py < y₁ := by
  obtain ⟨hfarX, hfarY⟩ := Rect.farCorner_isWhole hr (by omega) (by omega)
  have hleft := hr.left.toWord_eq .down word32
  have htop := hr.top.toWord_eq .down word32
  have hright := hfarX.toWord_eq .up word32
  have hbottom := hfarY.toWord_eq .up word32
  rw [word32_clamp (by omega) (by omega)] at hleft htop hright hbottom
  simp only [Block.Holds, touched, hleft, htop, hright, hbottom]
  omega

theorem clear_width (c : Canvas) (r : Rect) : (c.clear r).width = c.width := by
  unfold clear
  split <;> rfl

theorem clear_height (c : Canvas) (r : Rect) : (c.clear r).height = c.height := by
  unfold clear
  split <;> rfl

theorem get?_clear_outside (c : Canvas) (r : Rect) {px py : Nat}
    (h : ¬(px < c.width ∧ py < c.height)) : (c.clear r).get? px py = none := by
  refine get?_eq_none ?_
  rwa [clear_width, clear_height]

theorem get?_clear {c : Canvas} (hc : c.Measurable) {r : Rect} {x y w h : Int}
    (hr : r.IsWhole x y w h) (hx : x.natAbs ≤ 2 ^ 24) (hw : (x + w).natAbs ≤ 2 ^ 24)
    (hy : y.natAbs ≤ 2 ^ 24) (hh : (y + h).natAbs ≤ 2 ^ 24) (px py : Nat) :
    (c.clear r).get? px py =
      if Between x w px ∧ Between y h py then (c.get? px py).map fun _ => .transparent
      else c.get? px py := by
  have hwidth := hc.1
  have hheight := hc.2
  by_cases hin : px < c.width ∧ py < c.height
  · have hbounds : (bounds c).IsWhole 0 0 c.width c.height := Rect.ofSides_isWhole hc.1 hc.2
    rcases Rect.intersect_isWhole hr hbounds hx hw hy hh hc.1 hc.2 with
      ⟨hnone, hempty⟩ | ⟨t, hsome, hltx, hlty, ht⟩
    · -- the rectangle holds no pixel of the canvas
      have hout : ¬(Between x w px ∧ Between y h py) := by
        rw [between_iff hin.1, between_iff hin.2]
        omega
      rw [clear, hnone, if_neg hout]
    · have hholds : (touched t).Holds px py ↔ Between x w px ∧ Between y h py := by
        rw [between_iff hin.1, between_iff hin.2]
        exact touched_holds_iff ht (Int.le_max_right _ _) (Int.le_max_right _ _)
          (Int.le_of_lt hltx) (Int.le_of_lt hlty) (by omega) (by omega) px py
      simp only [clear, hsome, get?_modify, hholds]
  · rw [get?_clear_outside c r hin, get?_eq_none hin, Option.map_none, ite_self]

theorem touched_holds_of_origin {r : Rect} {w h : Nat} (hr : r.IsWhole 0 0 w h) {px py : Nat}
    (hx : px + 1 < 2 ^ 32) (hy : py + 1 < 2 ^ 32) :
    (touched r).Holds px py ↔ px < w ∧ py < h := by
  obtain ⟨hfarX, hfarY⟩ := Rect.farCorner_of_origin hr
  simp only [Block.Holds, touched, hr.left.toWord_eq, hr.top.toWord_eq, hfarX.toWord_eq,
    hfarY.toWord_eq, WordRange.clamp, word32]
  omega

theorem get?_clear_of_origin {c : Canvas} (hw : c.width < 2 ^ 32) (hh : c.height < 2 ^ 32)
    {r : Rect} (heq : c.bounds = r) {w h : Nat} (hr : r.IsWhole 0 0 w h) (px py : Nat) :
    (c.clear r).get? px py =
      if px < w ∧ py < h then (c.get? px py).map fun _ => .transparent else c.get? px py := by
  by_cases hin : px < c.width ∧ py < c.height
  · rcases Rect.intersect_self_of_origin hr with ⟨hnone, hempty⟩ | ⟨t, hsome, ht⟩
    · rw [clear, heq, hnone, if_neg (by omega)]
    · have hholds : (touched t).Holds px py ↔ px < w ∧ py < h :=
        touched_holds_of_origin ht (by omega) (by omega)
      simp only [clear, heq, hsome, get?_modify, hholds]
  · rw [get?_clear_outside c r hin, get?_eq_none hin, Option.map_none, ite_self]

/-- Clearing the bounds of a canvas reaches as far as its sides measure. -/
theorem get?_clear_bounds_measured {c : Canvas} (hw : c.width < 2 ^ 32) (hh : c.height < 2 ^ 32)
    (px py : Nat) :
    (c.clear c.bounds).get? px py =
      if px < measured c.width ∧ py < measured c.height then
        (c.get? px py).map fun _ => .transparent
      else c.get? px py :=
  get?_clear_of_origin hw hh rfl
    (Rect.ofSides_isWhole_measured (Nat.le_of_lt hw) (Nat.le_of_lt hh)) px py

theorem get?_clear_bounds {c : Canvas} (hc : c.Measurable) (px py : Nat) :
    (c.clear c.bounds).get? px py = (c.get? px py).map fun _ => .transparent := by
  have hword {n : Nat} (hn : n ≤ 2 ^ 24) : n < 2 ^ 32 := Nat.lt_of_le_of_lt hn (by decide)
  rw [get?_clear_bounds_measured (hword hc.1) (hword hc.2), measured_of_le hc.1,
    measured_of_le hc.2]
  by_cases hin : px < c.width ∧ py < c.height
  · rw [if_pos hin]
  · rw [get?_eq_none hin, Option.map_none, ite_self]

theorem getD_ofFn {n k : Nat} (f : Fin n → Nat) (hk : k < n) :
    (Array.ofFn f).getD k 0 = f ⟨k, hk⟩ := by
  simp [hk]

/-- Which of `old` places is shown at place `k` out of `new`; all are shown as they are if the image
has the sides that are asked for. -/
def placeAt (asItIs : Bool) (old new k : Nat) : Nat :=
  if asItIs then k else nearestPlace old new k

theorem columnsFor_getD (i : Image) (width height start : Nat) {count k : Nat} (hk : k < count) :
    (i.columnsFor width height start count).getD k 0 =
      placeAt (i.hasSides width height) i.width width (start + k) := by
  unfold columnsFor nearestPlaces placeAt nearestPlace
  split
  · exact getD_ofFn _ hk
  · exact getD_ofFn _ hk

theorem rowsFor_getD (i : Image) (width height start : Nat) {count k : Nat} (hk : k < count) :
    (i.rowsFor width height start count).getD k 0 =
      placeAt (i.hasSides width height) i.height height (start + k) := by
  unfold rowsFor nearestPlaces placeAt nearestPlace
  split
  · exact getD_ofFn _ hk
  · exact getD_ofFn _ hk

/-- A place on an axis lies under what starts at `x` and is `n` long. -/
def Under (x : Int) (n p : Nat) : Prop := x ≤ p ∧ p < x + n

instance (x : Int) (n p : Nat) : Decidable (Under x n p) := inferInstanceAs (Decidable (_ ∧ _))

theorem get?_overlay (c : Canvas) (i : Image) (width height : Nat) (x y : Int) (px py : Nat) :
    (c.overlay i width height x y).get? px py =
      if Under x width px ∧ Under y height py then
        (c.get? px py).map fun under => under.blend
          (i.get (placeAt (i.hasSides width height) i.width width (px - x).toNat)
            (placeAt (i.hasSides width height) i.height height (py - y).toNat))
      else c.get? px py := by
  by_cases hin : px < c.width ∧ py < c.height
  · have hholds : Block.Holds ⟨x.toNat, min (x + width).toNat c.width, y.toNat,
        min (y + height).toNat c.height⟩ px py ↔ Under x width px ∧ Under y height py := by
      simp only [Block.Holds, Under]
      omega
    simp only [overlay, get?_modify, hholds]
    by_cases hunder : Under x width px ∧ Under y height py
    · obtain ⟨⟨hleft, hright⟩, htop, hbottom⟩ := hunder
      rw [columnsFor_getD i _ _ _ (by omega), rowsFor_getD i _ _ _ (by omega),
        show (-x).toNat + (px - x.toNat) = (px - x).toNat by omega,
        show (-y).toNat + (py - y.toNat) = (py - y).toNat by omega]
    · rw [if_neg hunder, if_neg hunder]
  · have hin' : ¬(px < (c.overlay i width height x y).width ∧
        py < (c.overlay i width height x y).height) := hin
    rw [get?_eq_none hin, get?_eq_none hin', Option.map_none, ite_self]

/-- The whole number that a coordinate is rounded to; none if it is not finite. -/
def rounded? : Scalar → Option Int
  | .finite a u _ => some (Rounding.halfAway.divide (Binary.signed a u) single.one)
  | _ => none

theorem isFinite_eq (x : Scalar) : x.isFinite = (rounded? x).isSome := by
  cases x <;> rfl

theorem toWord_eq {x : Scalar} {n : Int} (h : rounded? x = some n) (w : WordRange) :
    x.toWord .halfAway w = w.clamp n := by
  cases x with
  | nan => cases h
  | infinite _ => cases h
  | finite a u r =>
    cases h
    rfl

/-- What a word cannot hold is so far away that nothing lies under it. -/
theorem under_clamp_iff {x : Int} {n p : Nat} (hn : n ≤ 2 ^ 32) (hp : p ≤ 2 ^ 32) :
    Under (signedWord64.clamp x) n p ↔ Under x n p := by
  simp only [Under, signedWord64, WordRange.clamp]
  omega

theorem clamp_of_under {x : Int} {n p : Nat} (hn : n ≤ 2 ^ 32) (hp : p ≤ 2 ^ 32)
    (h : Under x n p) : signedWord64.clamp x = x := by
  unfold Under at h
  simp only [signedWord64, WordRange.clamp]
  omega

/-- An image with its top left corner at a place of the canvas or beside it. -/
structure Layer where
  image : Image
  x : Int
  y : Int

namespace Layer

def pixel? (l : Layer) (px py : Nat) : Option Pixel :=
  if Under l.x l.image.width px ∧ Under l.y l.image.height py then
    l.image.get? (px - l.x).toNat (py - l.y).toNat
  else none

def cover (l : Layer) (px py : Nat) (under : Pixel) : Pixel :=
  match l.pixel? px py with
  | some top => under.blend top
  | none => under

/-- An image with its corner at a point, rounded; none if the point is not finite. -/
def ofPoint? (i : Image) (p : Point) : Option Layer := do
  return ⟨i, ← rounded? p.x, ← rounded? p.y⟩

theorem ofPoint?_eq_some {i : Image} {p : Point} {l : Layer} (h : ofPoint? i p = some l) :
    rounded? p.x = some l.x ∧ rounded? p.y = some l.y ∧ l.image = i := by
  cases hx : rounded? p.x with
  | none => simp [ofPoint?, hx] at h
  | some x =>
    cases hy : rounded? p.y with
    | none => simp [ofPoint?, hx, hy] at h
    | some y =>
      simp [ofPoint?, hx, hy] at h
      subst h
      exact ⟨rfl, rfl, rfl⟩

theorem mem_pixels {l : Layer} {px py : Nat} {p : Pixel} (h : l.pixel? px py = some p) :
    p ∈ l.image.pixels := by
  unfold pixel? at h
  split at h
  · exact mem_pixels_of_get? h
  · cases h

theorem cover_of_under {l : Layer} {px py : Nat} (hx : Under l.x l.image.width px)
    (hy : Under l.y l.image.height py) (under : Pixel) :
    l.cover px py under = under.blend (l.image.get (px - l.x).toNat (py - l.y).toNat) := by
  have hcolumn : (px - l.x).toNat < l.image.width := by
    unfold Under at hx
    omega
  have hrow : (py - l.y).toNat < l.image.height := by
    unfold Under at hy
    omega
  rw [cover, pixel?, if_pos ⟨hx, hy⟩, get?_eq_get hcolumn hrow]

theorem cover_of_not_under {l : Layer} {px py : Nat}
    (h : ¬(Under l.x l.image.width px ∧ Under l.y l.image.height py)) (under : Pixel) :
    l.cover px py under = under := by
  rw [cover, pixel?, if_neg h]

end Layer

theorem draw_width (c : Canvas) (i : Image) (dest : Rect) : (c.draw i dest).width = c.width := by
  unfold draw
  split <;> rfl

theorem draw_height (c : Canvas) (i : Image) (dest : Rect) : (c.draw i dest).height = c.height := by
  unfold draw
  split <;> rfl

theorem draw_of_idle {dest : Rect} (h : dest.isEmpty = true ∨ dest.isFinite = false) (c : Canvas)
    (i : Image) : c.draw i dest = c := by
  refine if_pos ?_
  rcases h with h | h
  · rw [h, Bool.true_or]
  · rw [h, Bool.not_false, Bool.or_true]

theorem draw_of_empty {i : Image} (p : Point) (h : i.width = 0 ∨ i.height = 0) (c : Canvas) :
    c.draw i ⟨p, ⟨.ofNat i.width, .ofNat i.height⟩⟩ = c := by
  have hzero : (0 : Scalar) ≤ 0 :=
    (Binary.isWhole_zero.le_iff Binary.isWhole_zero).2 (Int.le_refl 0)
  have hempty : Rect.isEmpty ⟨p, ⟨.ofNat i.width, .ofNat i.height⟩⟩ = true := by
    rw [Rect.isEmpty, Bool.or_eq_true, decide_eq_true_iff, decide_eq_true_iff]
    rcases h with h | h
    · exact .inl (by rw [h]; exact hzero)
    · exact .inr (by rw [h]; exact hzero)
  exact draw_of_idle (.inl hempty) c i

theorem draw_of_not_finite {i : Image} {p : Point} (h : Layer.ofPoint? i p = none) (size : Point)
    (c : Canvas) : c.draw i ⟨p, size⟩ = c := by
  have hfinite : Rect.isFinite ⟨p, size⟩ = false := by
    rw [Rect.isFinite, Point.isFinite, isFinite_eq, isFinite_eq]
    cases hx : rounded? p.x with
    | none => rfl
    | some x =>
      cases hy : rounded? p.y with
      | none => rfl
      | some y => simp [Layer.ofPoint?, hx, hy] at h
  exact draw_of_idle (.inr hfinite) c i

end Canvas

end Stagecraft
