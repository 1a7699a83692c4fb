import Stagecraft.Codec.Bytes

/-!
Byte sequences in parts. Main statements: what was put in front of a sequence is split off again,
pieces of one length are told apart again, and a sequence read as one number has its bytes and its
bits as digits (`toNatLE_append`, `bit_toNatLE`).
-/

set_option autoImplicit false

namespace Stagecraft

def chop {α : Type} (n : Nat) : Nat → List α → List (List α)
  | 0, _ => []
  | count + 1, l => l.take n :: chop n count (l.drop n)

section Chop

variable {α : Type} {n count : Nat} {l : List α}

theorem length_chop (n count : Nat) (l : List α) : (chop n count l).length = count := by
  induction count generalizing l with
  | zero => rfl
  | succ count ih => rw [chop, List.length_cons, ih]

theorem length_take_of_length (h : l.length = n * (count + 1)) : (l.take n).length = n := by
  rw [List.length_take, h, Nat.mul_succ]
  omega

theorem length_drop_of_length (h : l.length = n * (count + 1)) : (l.drop n).length = n * count := by
  rw [List.length_drop, h, Nat.mul_succ, Nat.add_sub_cancel]

theorem flatten_chop (h : l.length = n * count) : (chop n count l).flatten = l := by
  induction count generalizing l with
  | zero => simpa [chop] using h
  | succ count ih =>
    rw [chop, List.flatten_cons, ih (length_drop_of_length h), List.take_append_drop]

theorem length_of_mem_chop (h : l.length = n * count) : ∀ r ∈ chop n count l, r.length = n := by
  induction count generalizing l with
  | zero => simp [chop]
  | succ count ih =>
    intro r hr
    rcases List.mem_cons.1 hr with rfl | hr
    · exact length_take_of_length h
    · exact ih (length_drop_of_length h) r hr

theorem take_flatMap {β : Type} {f : α → List β} {k : Nat} (hf : ∀ a, (f a).length = k) (n : Nat)
    (l : List α) : (l.flatMap f).take (k * n) = (l.take n).flatMap f := by
  induction n generalizing l with
  | zero => simp
  | succ n ih =>
    cases l with
    | nil => simp
    | cons a l =>
      have hk : k * (n + 1) - (f a).length = k * n := by rw [hf, Nat.mul_succ, Nat.add_sub_cancel]
      have hle : (f a).length ≤ k * (n + 1) := by
        rw [hf, Nat.mul_succ]
        exact Nat.le_add_left _ _
      rw [List.flatMap_cons, List.take_append, hk, List.take_of_length_le hle, ih,
        List.take_succ_cons, List.flatMap_cons]

theorem drop_flatMap {β : Type} {f : α → List β} {k : Nat} (hf : ∀ a, (f a).length = k) (n : Nat)
    (l : List α) : (l.flatMap f).drop (k * n) = (l.drop n).flatMap f := by
  have h : (l.take n).flatMap f ++ (l.flatMap f).drop (k * n) =
      (l.take n).flatMap f ++ (l.drop n).flatMap f := by
    rw [← take_flatMap hf, List.take_append_drop, take_flatMap hf, ← List.flatMap_append,
      List.take_append_drop]
  exact List.append_cancel_left h

theorem length_flatMap {β : Type} {f : α → List β} {k : Nat} (hf : ∀ a, (f a).length = k)
    (l : List α) : (l.flatMap f).length = k * l.length := by
  induction l with
  | nil => rfl
  | cons a l ih =>
    rw [List.flatMap_cons, List.length_append, hf, ih, List.length_cons, Nat.mul_succ,
      Nat.add_comm]

/-- Elements that are written with `k` others each may be written after the runs are made. -/
theorem chop_flatMap {β : Type} {f : α → List β} {k : Nat} (hf : ∀ a, (f a).length = k)
    (n count : Nat) (l : List α) :
    chop (k * n) count (l.flatMap f) = (chop n count l).map (·.flatMap f) := by
  induction count generalizing l with
  | zero => rfl
  | succ count ih =>
    rw [chop, chop, List.map_cons, take_flatMap hf, drop_flatMap hf, ih]

end Chop

namespace Bytes

theorem length_ofNatBE (k n : Nat) : (ofNatBE k n).length = k := by
  rw [ofNatBE, List.length_reverse, length_ofNatLE]

theorem toNatBE_ofNatBE {k n : Nat} (h : n < 256 ^ k) : toNatBE (ofNatBE k n) = n := by
  rw [toNatBE, ofNatBE, List.reverse_reverse, toNatLE_ofNatLE h]

theorem split?_append {n : Nat} {front : Bytes} (h : front.length = n) (rest : Bytes) :
    split? n (front ++ rest) = some (front, rest) := by
  subst h
  simp [split?]

/-- Pieces of one length are told apart again. -/
theorem pieces?_flatten {n : Nat} (rows : List Bytes) (h : ∀ r ∈ rows, r.length = n)
    (rest : Bytes) : pieces? n rows.length (rows.flatten ++ rest) = some rows := by
  induction rows with
  | nil => rfl
  | cons r rows ih =>
    have hr := h r List.mem_cons_self
    have hrows := ih fun s hs => h s (List.mem_cons_of_mem _ hs)
    simp [pieces?, List.append_assoc, split?_append hr, hrows]

theorem toNatLE_append (a b : Bytes) :
    toNatLE (a ++ b) = toNatLE a + 256 ^ a.length * toNatLE b := by
  induction a with
  | nil => simp [toNatLE]
  | cons x a ih =>
    rw [List.cons_append, toNatLE, toNatLE, ih, List.length_cons, Nat.pow_succ', Nat.mul_add,
      Nat.mul_assoc, Nat.add_assoc]

theorem toNatLE_lt (b : Bytes) : toNatLE b < 256 ^ b.length := by
  induction b with
  | nil => exact Nat.one_pos
  | cons x b ih =>
    have hx := x.toNat_lt
    rw [toNatLE, List.length_cons, Nat.pow_succ]
    omega

theorem toNatLE_drop (b : Bytes) (k : Nat) : toNatLE (b.drop k) = toNatLE b / 256 ^ k := by
  induction k generalizing b with
  | zero => simp
  | succ k ih =>
    cases b with
    | nil => simp [toNatLE]
    | cons x b =>
      have hx := x.toNat_lt
      have htail : (x.toNat + 256 * toNatLE b) / 256 = toNatLE b := by omega
      rw [List.drop_succ_cons, ih, toNatLE, Nat.pow_succ', ← Nat.div_div_eq_div_mul, htail]

theorem toNatLE_mod (a b : Bytes) : toNatLE (a ++ b) % 256 ^ a.length = toNatLE a := by
  rw [toNatLE_append, Nat.add_mul_mod_self_left, Nat.mod_eq_of_lt (toNatLE_lt a)]

/-- The bits of a sequence, the low bit of each byte first. -/
theorem bit_toNatLE (b : Bytes) (p : Nat) :
    (b.getD (p / 8) 0).toNat / 2 ^ (p % 8) % 2 = toNatLE b / 2 ^ p % 2 := by
  have hbyte : (b.getD (p / 8) 0).toNat = toNatLE (b.drop (p / 8)) % 256 := by
    cases hd : b.drop (p / 8) with
    | nil => simp [List.drop_eq_nil_iff.1 hd, toNatLE, List.getD_eq_getElem?_getD]
    | cons x rest =>
      have hx : b[p / 8]? = some x := by
        rw [← List.head?_drop, hd]
        rfl
      have := x.toNat_lt
      rw [List.getD_eq_getElem?_getD, hx, toNatLE]
      simp only [Option.getD_some]
      omega
  have hp : (2 : Nat) ^ p = 256 ^ (p / 8) * 2 ^ (p % 8) := by
    rw [show (256 : Nat) = 2 ^ 8 from rfl, ← Nat.pow_mul, ← Nat.pow_add, Nat.div_add_mod]
  rw [hbyte, toNatLE_drop, hp, ← Nat.div_div_eq_div_mul]
  have hlt : p % 8 < 8 := Nat.mod_lt _ (by decide)
  rw [← Nat.toNat_testBit, ← Nat.toNat_testBit, show (256 : Nat) = 2 ^ 8 from rfl,
    Nat.testBit_mod_two_pow, decide_eq_true hlt, Bool.true_and]

end Bytes

end Stagecraft
