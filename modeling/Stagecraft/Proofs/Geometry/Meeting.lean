import Stagecraft.Geometry.Rect
import Stagecraft.Proofs.Number.Alike

/-!
The common part of two rectangles with any extents, also negative or infinite ones and ones that are
not a number. Its corners are picked from those of the two rectangles, and where both have a zero
either zero may be picked (`Meets`). Main statement: neither such a choice nor the order of the two
rectangles decides whether there is a common part, and the parts found differ in the signs of zeros
at most (`intersect_swap`).
-/

set_option autoImplicit false

namespace Stagecraft

namespace Point

/-- Equal but for the signs of zeros. -/
structure Alike (p q : Point) : Prop where
  x : p.x.Alike q.x
  y : p.y.Alike q.y

theorem Alike.add {p p' q q' : Point} (hp : p.Alike p') (hq : q.Alike q') :
    (p + q).Alike (p' + q') :=
  ⟨hp.x.add hq.x, hp.y.add hq.y⟩

/-- Each coordinate of `m` is the one that comes last. -/
structure IsLast (before : Scalar → Scalar → Prop) (p q m : Point) : Prop where
  x : Binary.IsLast before p.x q.x m.x
  y : Binary.IsLast before p.y q.y m.y

namespace IsLast

variable {before : Scalar → Scalar → Prop} {p p' q q' m n : Point}

theorem symm (h : IsLast before p q m) : IsLast before q p m := ⟨h.x.symm, h.y.symm⟩

theorem alike (hb : Binary.Orders before) (hp : p.Alike p') (hq : q.Alike q')
    (h : IsLast before p q m) (h' : IsLast before p' q' n) : m.Alike n :=
  ⟨h.x.alike hb hp.x hq.x h'.x, h.y.alike hb hp.y hq.y h'.y⟩

end IsLast

end Point

namespace Rect

structure Alike (r s : Rect) : Prop where
  origin : r.origin.Alike s.origin
  size : r.size.Alike s.size

theorem Alike.refl (r : Rect) : r.Alike r := ⟨⟨.same _, .same _⟩, ⟨.same _, .same _⟩⟩

theorem Alike.farCorner {r s : Rect} (h : r.Alike s) : r.farCorner.Alike s.farCorner :=
  h.origin.add h.size

theorem unfoldAxis_alike {start start' extent extent' : Scalar} (hs : start.Alike start')
    (he : extent.Alike extent') :
    (unfoldAxis start extent).1.Alike (unfoldAxis start' extent').1 ∧
      (unfoldAxis start extent).2.Alike (unfoldAxis start' extent').2 := by
  simp only [unfoldAxis, he.lt_iff (.same 0)]
  split
  · exact ⟨hs.add he, he.neg⟩
  · exact ⟨hs, he⟩

theorem Alike.normalized {r s : Rect} (h : r.Alike s) : r.normalized.Alike s.normalized := by
  have hx := unfoldAxis_alike h.origin.x h.size.x
  have hy := unfoldAxis_alike h.origin.y h.size.y
  exact ⟨⟨hx.1, hy.1⟩, ⟨hx.2, hy.2⟩⟩

/-- The rectangle from one corner to another, none if it has no area. An extent that is not a number
is no reason to have none. -/
def between (near far : Point) : Option Rect :=
  if far.x - near.x ≤ 0 ∨ far.y - near.y ≤ 0 then none
  else some (make near.x near.y (far.x - near.x) (far.y - near.y))

theorem between_alike {near near' far far' : Point} (hnear : near.Alike near')
    (hfar : far.Alike far') : Option.Rel Alike (between near far) (between near' far') := by
  have hx : (far.x - near.x).Alike (far'.x - near'.x) := hfar.x.sub hnear.x
  have hy : (far.y - near.y).Alike (far'.y - near'.y) := hfar.y.sub hnear.y
  simp only [between, hx.le_iff (.same 0), hy.le_iff (.same 0)]
  split
  · exact .none
  · exact .some ⟨hnear, ⟨hx, hy⟩⟩

/-- The answers that may be given for the common part of two rectangles: what lies between the
larger ones of their near coordinates and the smaller ones of their far coordinates. -/
inductive Meets (r s : Rect) : Option Rect → Prop
  | corners {near far : Point}
      (hnear : Point.IsLast (· < ·) r.normalized.origin s.normalized.origin near)
      (hfar : Point.IsLast (· > ·) r.normalized.farCorner s.normalized.farCorner far) :
      Meets r s (between near far)

theorem intersect_eq_between (r s : Rect) :
    r.intersect s =
      between
        ⟨r.normalized.origin.x.max s.normalized.origin.x,
          r.normalized.origin.y.max s.normalized.origin.y⟩
        ⟨r.normalized.farCorner.x.min s.normalized.farCorner.x,
          r.normalized.farCorner.y.min s.normalized.farCorner.y⟩ := rfl

theorem meets_intersect (r s : Rect) : Meets r s (r.intersect s) := by
  rw [intersect_eq_between]
  refine .corners ?_ ?_
  · exact ⟨Binary.max_isLast _ _, Binary.max_isLast _ _⟩
  · exact ⟨Binary.min_isLast _ _, Binary.min_isLast _ _⟩

namespace Meets

variable {r r' s s' : Rect} {o o' : Option Rect}

theorem symm (h : Meets r s o) : Meets s r o := by
  cases h with
  | corners hnear hfar => exact .corners hnear.symm hfar.symm

theorem alike (hr : r.Alike r') (hs : s.Alike s') (h : Meets r s o) (h' : Meets r' s' o') :
    Option.Rel Alike o o' := by
  cases h with
  | corners hnear hfar =>
    cases h' with
    | corners hnear' hfar' =>
      refine between_alike ?_ ?_
      · exact hnear.alike Binary.lt_orders hr.normalized.origin hs.normalized.origin hnear'
      · exact hfar.alike Binary.gt_orders hr.normalized.farCorner hs.normalized.farCorner hfar'

end Meets

/-- The order of two rectangles does not matter. The answer is one that may be given, and it is
like every other one that may be given in either order, whatever the signs of the zeros are. -/
theorem intersect_swap (a b : Rect) :
    Option.Rel Alike (a.intersect b) (b.intersect a) ∧ Meets a b (a.intersect b) ∧
      ∀ c d o, a.Alike c → b.Alike d → Meets d c o → Option.Rel Alike (a.intersect b) o := by
  -- The answers that may be given are the same in both orders, so each is compared with those for
  -- `a` and `b`.
  have hswap : Meets a b (b.intersect a) := (meets_intersect b a).symm
  refine ⟨?_, meets_intersect a b, ?_⟩
  · exact (meets_intersect a b).alike (.refl a) (.refl b) hswap
  · intro c d o hc hd h
    exact (meets_intersect a b).alike hc hd h.symm

/-- A rectangle at a negative zero whose upper edge is not a number, and one that reaches up
without end. In either order the height of their common part is not a number, and its left end is
the zero of the rectangle that stands first. -/
theorem intersect_swap_endless :
    (make (.zero true) .nan 2 1).intersect (make 0 1 2 (.infinite true)) =
        some (make (.zero true) (.infinite true) 2 .nan) ∧
      (make 0 1 2 (.infinite true)).intersect (make (.zero true) .nan 2 1) =
        some (make 0 (.infinite true) 2 .nan) ∧
      Option.Rel Alike (some (make (.zero true) (.infinite true) 2 .nan))
        (some (make 0 (.infinite true) 2 .nan)) ∧
      (make (.zero true) .nan 2 1).Alike (make 0 .nan 2 1) ∧
      Meets (make 0 1 2 (.infinite true)) (make 0 .nan 2 1)
        (some (make 0 (.infinite true) 2 .nan)) := by
  have hfirst : (make (.zero true) .nan 2 1).intersect (make 0 1 2 (.infinite true)) =
      some (make (.zero true) (.infinite true) 2 .nan) := by decide +kernel
  have hsecond : (make 0 1 2 (.infinite true)).intersect (make (.zero true) .nan 2 1) =
      some (make 0 (.infinite true) 2 .nan) := by decide +kernel
  have hthird : (make 0 1 2 (.infinite true)).intersect (make 0 .nan 2 1) =
      some (make 0 (.infinite true) 2 .nan) := by decide +kernel
  have hzero : (make (.zero true) .nan 2 1).Alike (make 0 .nan 2 1) :=
    ⟨⟨Binary.alike_iff_key.2 (by decide +kernel), .same _⟩, ⟨.same _, .same _⟩⟩
  have hmeets : Meets (make 0 1 2 (.infinite true)) (make 0 .nan 2 1)
      (some (make 0 (.infinite true) 2 .nan)) := hthird ▸ meets_intersect _ _
  have halike := (intersect_swap _ (make 0 1 2 (.infinite true))).2.2 _ _ _ hzero (.refl _) hmeets
  exact ⟨hfirst, hsecond, hfirst ▸ halike, hzero, hmeets⟩

end Rect

end Stagecraft
