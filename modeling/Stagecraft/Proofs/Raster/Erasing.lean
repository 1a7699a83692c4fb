import Stagecraft.Proofs.Raster.Canvas
import Stagecraft.Surface

/-!
Rectangles of whole numbers, cleared. Main statement: on a canvas and at a rectangle that are small
enough for single precision, clearing makes the pixels between the ends of the rectangle transparent
and no other; so the order of two such clearings does not matter, and a second one of the same
rectangle changes nothing (`clearAct_erases`).
-/

set_option autoImplicit false

namespace Stagecraft

/-- All four components are whole numbers of at most `2 ^ 22`, of either sign. -/
structure Rect.IsSmall (r : Rect) (x y w h : Int) : Prop where
  whole : r.IsWhole x y w h
  left : x.natAbs ≤ 2 ^ 22
  top : y.natAbs ≤ 2 ^ 22
  width : w.natAbs ≤ 2 ^ 22
  height : h.natAbs ≤ 2 ^ 22

namespace Canvas

open Image

/-- The second canvas is the first one without the pixels between the ends of a rectangle. -/
structure Erased (x y w h : Int) (c d : Canvas) : Prop where
  width : d.width = c.width
  height : d.height = c.height
  inside : ∀ px py, px < c.width → py < c.height → Between x w px → Between y h py →
    d.get? px py = some .transparent
  outside : ∀ px py, ¬(Between x w px ∧ Between y h py) → d.get? px py = c.get? px py

section Erased

variable {c d : Canvas} {x y w h : Int}

theorem Erased.get?_eq (he : Erased x y w h c d) {px py : Nat} (hx : px < c.width)
    (hy : py < c.height) :
    d.get? px py =
      if Between x w px ∧ Between y h py then some .transparent else c.get? px py := by
  split
  next hin => exact he.inside px py hx hy hin.1 hin.2
  next hout => exact he.outside px py hout

theorem Erased.idem {e : Canvas} (he : Erased x y w h c d) (he' : Erased x y w h d e) : e = d := by
  refine ext_get? he'.width he'.height fun px py hx hy => ?_
  rw [he'.width, he.width] at hx
  rw [he'.height, he.height] at hy
  rw [he'.get?_eq (by rwa [he.width]) (by rwa [he.height]), he.get?_eq hx hy]
  split <;> rfl

theorem Erased.comm {x' y' w' h' : Int} {d' e e' : Canvas} (hd : Erased x y w h c d)
    (he : Erased x' y' w' h' d e) (hd' : Erased x' y' w' h' c d') (he' : Erased x y w h d' e') :
    e = e' := by
  have hwidth : e.width = c.width := he.width.trans hd.width
  have hheight : e.height = c.height := he.height.trans hd.height
  refine ext_get? (hwidth.trans (he'.width.trans hd'.width).symm)
    (hheight.trans (he'.height.trans hd'.height).symm) fun px py hx hy => ?_
  rw [hwidth] at hx
  rw [hheight] at hy
  rw [he.get?_eq (by rwa [hd.width]) (by rwa [hd.height]), hd.get?_eq hx hy,
    he'.get?_eq (by rwa [hd'.width]) (by rwa [hd'.height]), hd'.get?_eq hx hy]
  by_cases hfirst : Between x w px ∧ Between y h py
  · simp only [hfirst, and_self, if_true, ite_self]
  · simp only [hfirst, if_false]

end Erased

theorem clear_erased {c : Canvas} (hw : c.width ≤ 2 ^ 22) (hh : c.height ≤ 2 ^ 22) {r : Rect}
    {x y w h : Int} (hr : r.IsSmall x y w h) : Erased x y w h c (c.clear r) := by
  have hc : c.Measurable := ⟨by omega, by omega⟩
  have hx := hr.left
  have hy := hr.top
  have hwidth := hr.width
  have hheight := hr.height
  -- the far ends are at most twice as far away, which single precision still holds
  have hpixel := get?_clear hc hr.whole (by omega) (by omega) (by omega) (by omega)
  refine ⟨clear_width c r, clear_height c r, fun px py hpx hpy hcolumn hrow => ?_, ?_⟩
  · rw [hpixel, if_pos ⟨hcolumn, hrow⟩, get?_eq_get hpx hpy, Option.map_some]
  · intro px py hout
    rw [hpixel, if_neg hout]

/-- Clearing comes to an end whatever lies beside the canvas, and erases what it should. -/
theorem clearAct_erases {ν ε : Type} {c : Canvas} (hw : c.width ≤ 2 ^ 22) (hh : c.height ≤ 2 ^ 22)
    {r : Rect} {x y w h : Int} (hr : r.IsSmall x y w h) :
    (Surface.clearAct r : Act ν ε Canvas Unit) c = ⟨.ok (), c.clear r, []⟩ ∧
      Erased x y w h c (c.clear r) ∧ (c.clear r).clear r = c.clear r ∧
      ∀ (s : Rect) (x' y' w' h' : Int), s.IsSmall x' y' w' h' →
        (c.clear r).clear s = (c.clear s).clear r := by
  have hsmall (s : Rect) : (c.clear s).width ≤ 2 ^ 22 ∧ (c.clear s).height ≤ 2 ^ 22 := by
    rw [clear_width, clear_height]
    exact ⟨hw, hh⟩
  have hfirst := clear_erased hw hh hr
  refine ⟨rfl, hfirst, ?_, fun s x' y' w' h' hs => ?_⟩
  · exact hfirst.idem (clear_erased (hsmall r).1 (hsmall r).2 hr)
  · exact hfirst.comm (clear_erased (hsmall r).1 (hsmall r).2 hs) (clear_erased hw hh hs)
      (clear_erased (hsmall s).1 (hsmall s).2 hr)

/-- A rectangle that lies to the left of its corner and above it, for the most part beside the
canvas. -/
def flap : Rect := .make 3 2 (Binary.neg 2) (Binary.neg 5)

theorem flap_isSmall : flap.IsSmall 3 2 (-2) (-5) where
  whole := by
    constructor <;> simp only [flap, Rect.make]
    · exact Binary.ofNat_isWhole (n := 3) (by decide)
    · exact Binary.ofNat_isWhole (n := 2) (by decide)
    · exact (Binary.ofNat_isWhole (n := 2) (by decide)).neg
    · exact (Binary.ofNat_isWhole (n := 5) (by decide)).neg
  left := by decide
  top := by decide
  width := by decide
  height := by decide

/-- On a canvas of four columns and three rows, the columns 1 and 2 lose their upper two pixels. -/
theorem clearAct_erases_flap :
    let c : Canvas := Image.fill 4 3 ⟨1, 2, 3, 4⟩
    (c.clear flap).get? 1 0 = some .transparent ∧ (c.clear flap).get? 2 1 = some .transparent ∧
      (c.clear flap).get? 0 0 = c.get? 0 0 ∧ (c.clear flap).get? 3 1 = c.get? 3 1 ∧
      (c.clear flap).get? 1 2 = c.get? 1 2 ∧
      (c.clear flap).clear flap = c.clear flap := by
  intro c
  obtain ⟨-, herased, hidem, -⟩ :=
    clearAct_erases (ν := Empty) (ε := Empty) (c := c) (by decide) (by decide) flap_isSmall
  refine ⟨?_, ?_, ?_, ?_, ?_, hidem⟩
  · exact herased.inside 1 0 (by decide) (by decide) (by decide) (by decide)
  · exact herased.inside 2 1 (by decide) (by decide) (by decide) (by decide)
  · exact herased.outside 0 0 (by decide)
  · exact herased.outside 3 1 (by decide)
  · exact herased.outside 1 2 (by decide)

end Canvas

end Stagecraft
