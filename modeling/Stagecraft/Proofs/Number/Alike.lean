import Stagecraft.Proofs.Number.Order

/-!
Numbers that differ in the sign of zero at most. No comparison tells them apart, and sums and
differences of such numbers are such numbers again. The larger and the smaller one of two numbers
are fixed up to that difference: of two zeros either may be taken. Main statement: the one that
comes last does not depend on the order of the operands or on the signs of their zeros
(`IsLast.symm`, `IsLast.alike`).
-/

set_option autoImplicit false

namespace Stagecraft.Binary

variable {f : BinaryFormat} {x x' y y' z : Binary f}

/-- Equal but for the sign of zero. What is not a number is like itself, unlike under `equal`. -/
inductive Alike : Binary f → Binary f → Prop
  | same (x : Binary f) : Alike x x
  | zeros (a b : Bool) (r : f.Representable 0) : Alike (.finite a 0 r) (.finite b 0 r)

theorem signed_zero (a : Bool) : signed a 0 = 0 := by
  cases a <;> rfl

theorem eq_of_signed_eq {a b : Bool} {u v : Nat} (h : signed a u = signed b v) :
    u = v ∧ (u = 0 ∨ a = b) := by
  cases a <;> cases b <;> simp only [signed] at h <;> simp at h ⊢ <;> omega

theorem alike_iff_key : x.Alike y ↔ x.key = y.key := by
  constructor
  · intro h
    cases h with
    | same => rfl
    | zeros a b r => rw [key, key, signed_zero, signed_zero]
  · intro h
    cases x with
    | nan =>
      cases y with
      | nan => exact .same _
      | infinite b => cases h
      | finite b v s => cases h
    | infinite a =>
      cases y with
      | nan => cases h
      | infinite b =>
        obtain ⟨-, hzero | rfl⟩ := eq_of_signed_eq (Option.some.inj h)
        · exact absurd hzero (Nat.ne_of_gt (Nat.two_pow_pos _))
        · exact .same _
      | finite b v s =>
        -- Infinity stands past every finite number.
        obtain ⟨hlimit, -⟩ := eq_of_signed_eq (Option.some.inj h)
        exact absurd s.2 (by omega)
    | finite a u r =>
      cases y with
      | nan => cases h
      | infinite b =>
        obtain ⟨hlimit, -⟩ := eq_of_signed_eq (Option.some.inj h)
        exact absurd r.2 (by omega)
      | finite b v s =>
        obtain ⟨rfl, rfl | rfl⟩ := eq_of_signed_eq (Option.some.inj h)
        · exact .zeros a b r
        · exact .same _

namespace Alike

theorem trans (h : x.Alike y) (h' : y.Alike z) : x.Alike z :=
  alike_iff_key.2 ((alike_iff_key.1 h).trans (alike_iff_key.1 h'))

theorem of_isNan (hx : x.isNan = true) (hy : y.isNan = true) : x.Alike y := by
  cases x <;> cases hx
  cases y <;> cases hy
  exact .same _

theorem isNan_eq (h : x.Alike y) : x.isNan = y.isNan := by
  cases h <;> rfl

theorem lt_iff (hx : x.Alike x') (hy : y.Alike y') : x < y ↔ x' < y' := by
  rw [Binary.lt_iff, Binary.lt_iff, alike_iff_key.1 hx, alike_iff_key.1 hy]

theorem le_iff (hx : x.Alike x') (hy : y.Alike y') : x ≤ y ↔ x' ≤ y' := by
  rw [Binary.le_iff, Binary.le_iff, alike_iff_key.1 hx, alike_iff_key.1 hy]

theorem neg (h : x.Alike y) : x.neg.Alike y.neg := by
  cases h with
  | same => exact .same _
  | zeros a b r => exact .zeros _ _ r

theorem add_right (x : Binary f) (h : y.Alike y') : (x + y).Alike (x + y') := by
  cases h with
  | same => exact .same _
  | zeros a b r =>
    cases x with
    | nan => exact .same _
    | infinite c => exact .same _
    | finite c u s =>
      -- The sum of two zeros has a sign of its own, so only its position is compared.
      rw [alike_iff_key, key_add rfl rfl rfl rfl, key_add rfl rfl rfl rfl, signed_zero, signed_zero]

end Alike

protected theorem add_comm (x y : Binary f) : x + y = y + x := by
  cases x with
  | nan => cases y <;> rfl
  | infinite a =>
    cases y with
    | nan => rfl
    | infinite b => cases a <;> cases b <;> rfl
    | finite b v s => rfl
  | finite a u r =>
    cases y with
    | nan => rfl
    | infinite b => rfl
    | finite b v s =>
      show (if signed a u + signed b v = 0 then zero (a && b)
        else ofUnits (signed a u + signed b v) : Binary f) =
        if signed b v + signed a u = 0 then zero (b && a) else ofUnits (signed b v + signed a u)
      rw [Int.add_comm, Bool.and_comm]

theorem Alike.add (hx : x.Alike x') (hy : y.Alike y') : (x + y).Alike (x' + y') := by
  have hleft : (x + y).Alike (x' + y) := by
    rw [Binary.add_comm x, Binary.add_comm x']
    exact hx.add_right y
  exact hleft.trans (hy.add_right x')

theorem Alike.sub (hx : x.Alike x') (hy : y.Alike y') : (x - y).Alike (x' - y') :=
  hx.add hy.neg

/-- A strict order of the number line, in one direction or the other. -/
structure Orders (before : Binary f → Binary f → Prop) : Prop where
  isNan {x y : Binary f} : before x y → x.isNan = false ∧ y.isNan = false
  asymm {x y : Binary f} : before x y → ¬before y x
  alike {x y : Binary f} :
    x.isNan = false → y.isNan = false → ¬before x y → ¬before y x → x.Alike y
  congr {x x' y y' : Binary f} : x.Alike x' → y.Alike y' → before x y → before x' y'

theorem isNan_eq_false_iff : x.isNan = false ↔ ∃ i, x.key = some i := by
  cases x <;> simp [isNan, key]

theorem lt_orders : Orders (f := f) (· < ·) where
  isNan h := by
    obtain ⟨i, j, hi, hj, -⟩ := Binary.lt_iff.1 h
    exact ⟨isNan_eq_false_iff.2 ⟨i, hi⟩, isNan_eq_false_iff.2 ⟨j, hj⟩⟩
  asymm h h' := by
    obtain ⟨i, j, hi, hj, hij⟩ := Binary.lt_iff.1 h
    have hji := (lt_iff_of_key hj hi).1 h'
    omega
  alike hx hy h h' := by
    obtain ⟨i, hi⟩ := isNan_eq_false_iff.1 hx
    obtain ⟨j, hj⟩ := isNan_eq_false_iff.1 hy
    rw [lt_iff_of_key hi hj] at h
    rw [lt_iff_of_key hj hi] at h'
    rw [alike_iff_key, hi, hj, show i = j by omega]
  congr hx hy h := (hx.lt_iff hy).1 h

theorem Orders.flip {before : Binary f → Binary f → Prop} (h : Orders before) :
    Orders (fun x y => before y x) where
  isNan hb := (h.isNan hb).symm
  asymm hb := h.asymm hb
  alike hx hy hb hb' := h.alike hx hy hb' hb
  congr hx hy hb := h.congr hy hx hb

theorem gt_orders : Orders (f := f) (· > ·) := lt_orders.flip

/-- `m` is the one of `x` and `y` that comes last in an order. It is not a number only if neither
of them is, and of two equal ones it may be either. -/
structure IsLast (before : Binary f → Binary f → Prop) (x y m : Binary f) : Prop where
  isOperand : m = x ∨ m = y
  isNan : m.isNan = true → x.isNan = true ∧ y.isNan = true
  not_before_left : ¬before m x
  not_before_right : ¬before m y

theorem Orders.isLast_ite {before : Binary f → Binary f → Prop} [DecidableRel before]
    (h : Orders before) (x y : Binary f) :
    IsLast before x y
      (if x.isNan then y else if y.isNan then x else if before x y then y else x) := by
  have irrefl (z : Binary f) : ¬before z z := fun hz => h.asymm hz hz
  split
  next hx =>
    exact ⟨.inr rfl, fun hy => ⟨hx, hy⟩,
      fun hb => absurd (h.isNan hb).2 (by rw [hx]; decide), irrefl y⟩
  next hx =>
    split
    next hy =>
      exact ⟨.inl rfl, fun hx' => absurd hx' hx, irrefl x,
        fun hb => absurd (h.isNan hb).2 (by rw [hy]; decide)⟩
    next hy =>
      split
      next hb => exact ⟨.inr rfl, fun hy' => absurd hy' hy, h.asymm hb, irrefl y⟩
      next hb => exact ⟨.inl rfl, fun hx' => absurd hx' hx, irrefl x, hb⟩

theorem max_isLast (x y : Binary f) : IsLast (· < ·) x y (x.max y) := lt_orders.isLast_ite x y

theorem min_isLast (x y : Binary f) : IsLast (· > ·) x y (x.min y) := gt_orders.isLast_ite x y

namespace IsLast

variable {before : Binary f → Binary f → Prop} {m n : Binary f}

theorem symm (h : IsLast before x y m) : IsLast before y x m :=
  ⟨h.isOperand.symm, fun hm => (h.isNan hm).symm, h.not_before_right, h.not_before_left⟩

theorem alike_operands (hb : Orders before) (hx : x.Alike x') (hy : y.Alike y')
    (h : IsLast before x y x) (h' : IsLast before x' y' y') : x.Alike y' := by
  by_cases hnan : x.isNan = true
  · have hy' : y'.isNan = true := by rw [← hy.isNan_eq]; exact (h.isNan hnan).2
    exact .of_isNan hnan hy'
  · have hnan' : ¬y'.isNan = true := by
      intro hy'
      rw [hx.isNan_eq] at hnan
      exact hnan (h'.isNan hy').1
    rw [← hy.isNan_eq] at hnan'
    have hyx : ¬before y x := fun hyx => h'.not_before_left (hb.congr hy hx hyx)
    have hxy : x.Alike y :=
      hb.alike (eq_false_of_ne_true hnan) (eq_false_of_ne_true hnan')
        h.not_before_right hyx
    exact hxy.trans hy

theorem alike (hb : Orders before) (hx : x.Alike x') (hy : y.Alike y')
    (h : IsLast before x y m) (h' : IsLast before x' y' n) : m.Alike n := by
  rcases h.isOperand with rfl | rfl
  · rcases h'.isOperand with rfl | rfl
    · exact hx
    -- The two choices fell on different operands: neither comes before the other.
    · exact alike_operands hb hx hy h h'
  · rcases h'.isOperand with rfl | rfl
    · exact alike_operands hb hy hx h.symm h'.symm
    · exact hy

end IsLast

end Stagecraft.Binary
