import Stagecraft.Raster.Image

/-!
Images seen pixel by pixel. Main statements: an image is its sides and its pixels (`ext_get?`), and
`modify` changes the pixels of its block, each on its own, and no other (`get?_modify`).
-/

set_option autoImplicit false

namespace Stagecraft.Image

theorem index_lt {width height x y : Nat} (hx : x < width) (hy : y < height) :
    y * width + x < width * height := by
  have hrow : (y + 1) * width ≤ height * width := Nat.mul_le_mul_right width hy
  rw [Nat.add_one_mul, Nat.mul_comm height] at hrow
  omega

theorem get?_eq_get {i : Image} {x y : Nat} (hx : x < i.width) (hy : y < i.height) :
    i.get? x y = some (i.get x y) := by
  have hlt : y * i.width + x < i.pixels.size := by
    rw [i.size_pixels]
    exact index_lt hx hy
  rw [get, get?, if_pos ⟨hx, hy⟩, Array.getElem?_eq_getElem hlt, Option.getD_some]

theorem get?_eq_none {i : Image} {x y : Nat} (h : ¬(x < i.width ∧ y < i.height)) :
    i.get? x y = none :=
  if_neg h

theorem mem_pixels_of_get? {i : Image} {x y : Nat} {p : Pixel} (h : i.get? x y = some p) :
    p ∈ i.pixels := by
  unfold get? at h
  split at h
  · exact Array.mem_of_getElem? h
  · cases h

theorem length_pixels (i : Image) : i.pixels.toList.length = i.width * i.height := by
  rw [Array.length_toList, i.size_pixels]

theorem ofPixels?_eq_some_iff {width height : Nat} {a : Array Pixel} {i : Image} :
    ofPixels? width height a = some i ↔ i.width = width ∧ i.height = height ∧ i.pixels = a := by
  constructor
  · intro h
    unfold ofPixels? at h
    split at h
    · cases h
      exact ⟨rfl, rfl, rfl⟩
    · cases h
  · rintro ⟨rfl, rfl, rfl⟩
    exact dif_pos i.size_pixels

theorem ext_get? {i j : Image} (hw : i.width = j.width) (hh : i.height = j.height)
    (h : ∀ x y, x < i.width → y < i.height → i.get? x y = j.get? x y) : i = j := by
  obtain ⟨width, height, a, ha⟩ := i
  obtain ⟨width', height', b, hb⟩ := j
  cases hw
  cases hh
  have hab : a = b := by
    refine Array.ext (ha.trans hb.symm) fun k hk hk' => ?_
    have hpos : 0 < width := by
      refine Nat.pos_of_ne_zero ?_
      rintro rfl
      rw [ha, Nat.zero_mul] at hk
      exact Nat.not_lt_zero _ hk
    have hx : k % width < width := Nat.mod_lt k hpos
    have hy : k / width < height := Nat.div_lt_of_lt_mul (by rwa [ha] at hk)
    have hxy := h (k % width) (k / width) hx hy
    rw [get?, get?, if_pos ⟨hx, hy⟩, if_pos ⟨hx, hy⟩, Nat.div_add_mod'] at hxy
    rw [Array.getElem?_eq_getElem hk, Array.getElem?_eq_getElem hk'] at hxy
    exact Option.some.inj hxy
  cases hab
  rfl

theorem get?_generate {width height x y : Nat} (f : Nat → Nat → Pixel) (hx : x < width)
    (hy : y < height) : (generate width height f).get? x y = some (f x y) := by
  have hlt := index_lt hx hy
  have hmod : (y * width + x) % width = x := by
    rw [Nat.mul_add_mod_self_right, Nat.mod_eq_of_lt hx]
  have hdiv : (y * width + x) / width = y := by
    rw [Nat.mul_comm, Nat.mul_add_div (Nat.zero_lt_of_lt hx), Nat.div_eq_of_lt hx, Nat.add_zero]
  simp [get?, generate, hx, hy, hlt, hmod, hdiv]

theorem getElem?_modifyRun (f : Nat → Pixel → Pixel) (base x n : Nat) (a : Array Pixel) (k : Nat) :
    (modifyRun f base x n a)[k]? =
      if base + x ≤ k ∧ k < base + x + n then a[k]?.map (f (k - base)) else a[k]? := by
  induction n generalizing x a with
  | zero => rw [modifyRun, if_neg (by omega)]
  | succ n ih =>
    rw [modifyRun, ih, Array.getElem?_modify]
    by_cases hk : base + x = k
    · subst hk
      rw [if_neg (by omega), if_pos rfl, if_pos (by omega), Nat.add_sub_cancel_left]
    · have hiff : base + (x + 1) ≤ k ∧ k < base + (x + 1) + n ↔
          base + x ≤ k ∧ k < base + x + (n + 1) := by omega
      simp only [hk, if_false, hiff]

/-- The rows do not overlap, as a run ends where its row does. -/
theorem getElem?_modifyRows (f : Nat → Nat → Pixel → Pixel) {width x n column : Nat}
    (hn : x + n ≤ width ∨ n = 0) (hc : column < width) (y m row : Nat) (a : Array Pixel) :
    (modifyRows f width x n y m a)[row * width + column]? =
      if (y ≤ row ∧ row < y + m) ∧ x ≤ column ∧ column < x + n then
        a[row * width + column]?.map (f row column)
      else a[row * width + column]? := by
  induction m generalizing y a with
  | zero => rw [modifyRows, if_neg (by omega)]
  | succ m ih =>
    rw [modifyRows, ih]
    rcases Nat.lt_trichotomy row y with hlt | rfl | hgt
    · -- the run lies behind the place
      have hbelow : row * width + width ≤ y * width := by
        rw [← Nat.add_one_mul]
        exact Nat.mul_le_mul_right width hlt
      rw [if_neg (by omega), if_neg (by omega), getElem?_modifyRun, if_neg (by omega)]
    · have hiff : row * width + x ≤ row * width + column ∧
          row * width + column < row * width + x + n ↔
          (row ≤ row ∧ row < row + (m + 1)) ∧ x ≤ column ∧ column < x + n := by omega
      rw [if_neg (by omega), getElem?_modifyRun, Nat.add_sub_cancel_left]
      simp only [hiff]
    · have habove : y * width + width ≤ row * width := by
        rw [← Nat.add_one_mul]
        exact Nat.mul_le_mul_right width hgt
      have hrun : ¬(y * width + x ≤ row * width + column ∧
          row * width + column < y * width + x + n) := by omega
      have hiff : (y + 1 ≤ row ∧ row < y + 1 + m) ↔ (y ≤ row ∧ row < y + (m + 1)) := by omega
      simp only [getElem?_modifyRun, hrun, if_false, hiff]

def Block.Holds (b : Block) (x y : Nat) : Prop :=
  (b.left ≤ x ∧ x < b.right) ∧ b.top ≤ y ∧ y < b.bottom

instance (b : Block) (x y : Nat) : Decidable (b.Holds x y) := inferInstanceAs (Decidable (_ ∧ _))

theorem get?_modify (i : Image) (b : Block) (f : Nat → Nat → Pixel → Pixel) (x y : Nat) :
    (i.modify b f).get? x y = if b.Holds x y then (i.get? x y).map (f y x) else i.get? x y := by
  by_cases h : x < i.width ∧ y < i.height
  · have hn : b.left + (min b.right i.width - b.left) ≤ i.width ∨
        min b.right i.width - b.left = 0 := by omega
    have hiff : (b.top ≤ y ∧ y < b.top + (min b.bottom i.height - b.top)) ∧
        b.left ≤ x ∧ x < b.left + (min b.right i.width - b.left) ↔ b.Holds x y := by
      unfold Block.Holds
      omega
    simp only [get?, modify, h, and_self, if_true, getElem?_modifyRows f hn h.1, hiff]
  · have h' : ¬(x < (i.modify b f).width ∧ y < (i.modify b f).height) := h
    rw [get?_eq_none h, get?_eq_none h', Option.map_none, ite_self]

end Stagecraft.Image
