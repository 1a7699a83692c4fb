import Stagecraft.Codec.Deflate
import Stagecraft.Proofs.Codec.Bytes

/-!
Stored blocks, bit by bit. A reading is followed step by step with `Reads`. Main statement: what
`store` writes is read back as it was, whatever comes behind it (`inflate?_store`).
-/

set_option autoImplicit false

namespace Stagecraft.Deflate

/-- The reading succeeds with `x` and leads from the tape `t` to the tape `t'`. -/
def Reads {α : Type} (r : Reader α) (t : Tape) (x : α) (t' : Tape) : Prop :=
  r.run.run t = (.ok x, t')

section Reads

variable {α β : Type} {t t' t'' : Tape}

theorem Reads.pure (x : α) (t : Tape) : Reads (pure x) t x t := rfl

theorem Reads.get (t : Tape) : Reads get t t t := rfl

theorem Reads.modify (f : Tape → Tape) (t : Tape) : Reads (modify f) t () (f t) := rfl

theorem Reads.bind {r : Reader α} {f : α → Reader β} {x : α} {y : β} (h : Reads r t x t')
    (hf : Reads (f x) t' y t'') : Reads (r >>= f) t y t'' := by
  simp only [Reads, ExceptT.run_bind] at h hf ⊢
  simp only [StateT.run_bind, h]
  exact hf

theorem reads_need {n : Nat} (h : n ≤ t.ahead) : Reads (need n) t () t := by
  unfold need
  refine (Reads.get t).bind ?_
  rw [if_neg (Nat.not_lt.2 h)]
  exact .pure _ _

theorem reads_align (t : Tape) :
    Reads align t () { t with position := (t.position + 7) / 8 * 8 } := rfl

def Tape.number (t : Tape) : Nat := Bytes.toNatLE t.bytes.toList

theorem reads_bit (t : Tape) :
    Reads bit t (t.number / 2 ^ t.position % 2) { t with position := t.position + 1 } := by
  have hbit : (t.bytes.getD (t.position / 8) 0).toNat / 2 ^ (t.position % 8) % 2 =
      t.number / 2 ^ t.position % 2 := by
    rw [Tape.number, ← Bytes.bit_toNatLE]
    simp [Array.getD_eq_getD_getElem?, List.getD_eq_getElem?_getD]
  rw [← hbit]
  rfl

theorem reads_bits (n : Nat) (t : Tape) :
    Reads (bits n) t (t.number / 2 ^ t.position % 2 ^ n) { t with position := t.position + n } := by
  induction n generalizing t with
  | zero =>
    rw [Nat.pow_zero, Nat.mod_one]
    rfl
  | succ n ih =>
    have hvalue : t.number / 2 ^ t.position % 2 ^ (n + 1) = t.number / 2 ^ t.position % 2 +
        2 * (t.number / 2 ^ (t.position + 1) % 2 ^ n) := by
      rw [Nat.pow_succ', Nat.mod_mul, Nat.pow_succ, Nat.div_div_eq_div_mul]
    have hplace : t.position + (n + 1) = t.position + 1 + n := by omega
    rw [hvalue, hplace]
    exact (reads_bit t).bind ((ih { t with position := t.position + 1 }).bind (.pure _ _))

theorem number_div {pre rest : Bytes} (hbytes : t.bytes.toList = pre ++ rest) :
    t.number / 2 ^ (8 * pre.length) = Bytes.toNatLE rest := by
  have hdrop : (pre ++ rest).drop pre.length = rest := List.drop_left
  rw [Nat.pow_mul, Tape.number, hbytes, show (2 : Nat) ^ 8 = 256 from rfl, ← Bytes.toNatLE_drop,
    hdrop]

def Tape.past (t : Tape) (pre : Bytes) : Tape := { t with position := 8 * pre.length }

@[simp]
theorem Tape.past_bytes (t : Tape) (pre : Bytes) : (t.past pre).bytes = t.bytes := rfl

@[simp]
theorem Tape.past_out (t : Tape) (pre : Bytes) : (t.past pre).out = t.out := rfl

@[simp]
theorem Tape.past_wanted (t : Tape) (pre : Bytes) : (t.past pre).wanted = t.wanted := rfl

@[simp]
theorem Tape.past_room (t : Tape) (pre : Bytes) (n : Nat) : (t.past pre).room n = t.room n := rfl

/-- A number that stands at a whole byte. -/
theorem reads_field {n : Nat} {pre field post : Bytes}
    (hbytes : t.bytes.toList = pre ++ field ++ post) (hn : n = 8 * field.length) :
    Reads (bits n) (t.past pre) (Bytes.toNatLE field) (t.past (pre ++ field)) := by
  have hvalue : (t.past pre).number / 2 ^ (8 * pre.length) % 2 ^ n = Bytes.toNatLE field := by
    rw [List.append_assoc] at hbytes
    rw [show (t.past pre).number = t.number from rfl, number_div hbytes, hn, Nat.pow_mul,
      show (2 : Nat) ^ 8 = 256 from rfl, Bytes.toNatLE_mod]
  have hplace : 8 * (pre ++ field).length = 8 * pre.length + n := by
    rw [List.length_append, Nat.mul_add, hn]
  rw [← hvalue, Tape.past, Tape.past, hplace]
  exact reads_bits n _

end Reads

section Stored

variable {t : Tape} {pre post b : Bytes} {last : Bool}

def Tape.made (t : Tape) (pre b : Bytes) : Tape := { t.past pre with out := t.out ++ b.toArray }

theorem extract_append {a : Array UInt8} (h : a.toList = pre ++ b ++ post) :
    a.extract pre.length (pre.length + b.length) = b.toArray := by
  apply Array.toList_inj.1
  rw [Array.toList_extract, h]
  simp

theorem made_append (hbytes : t.bytes.toList = pre ++ b ++ post) :
    { t with
      position := (t.past pre).position + 8 * b.length
      out := t.out ++ t.bytes.extract ((t.past pre).position / 8)
        ((t.past pre).position / 8 + b.length) } = t.made (pre ++ b) b := by
  have hstart : (t.past pre).position / 8 = pre.length := Nat.mul_div_cancel_left _ (by decide)
  rw [hstart, extract_append hbytes]
  simp only [Tape.past, Tape.made, List.length_append, Nat.mul_add]

def lengths (b : Bytes) : Bytes :=
  Bytes.ofNatLE 2 b.length ++ Bytes.ofNatLE 2 (maxStored - b.length)

theorem length_lengths (b : Bytes) : (lengths b).length = 4 := by
  rw [lengths, List.length_append, Bytes.length_ofNatLE, Bytes.length_ofNatLE]

theorem reads_lengths (hbytes : t.bytes.toList = pre ++ lengths b ++ post)
    (hb : b.length ≤ maxStored) :
    Reads (bits 16) (t.past pre) b.length (t.past (pre ++ Bytes.ofNatLE 2 b.length)) ∧
      Reads (bits 16) (t.past (pre ++ Bytes.ofNatLE 2 b.length)) (maxStored - b.length)
        (t.past (pre ++ lengths b)) := by
  have hsecond : t.bytes.toList = pre ++ Bytes.ofNatLE 2 b.length ++
      Bytes.ofNatLE 2 (maxStored - b.length) ++ post := by
    rw [hbytes, lengths, ← List.append_assoc pre]
  have hfirst : t.bytes.toList = pre ++ Bytes.ofNatLE 2 b.length ++
      (Bytes.ofNatLE 2 (maxStored - b.length) ++ post) := by
    rw [hsecond, List.append_assoc (pre ++ _)]
  simp only [maxStored] at hb
  have hlength := reads_field hfirst (n := 16) (by rw [Bytes.length_ofNatLE])
  have hcheck := reads_field hsecond (n := 16) (by rw [Bytes.length_ofNatLE])
  rw [Bytes.toNatLE_ofNatLE (by omega)] at hlength
  rw [Bytes.toNatLE_ofNatLE (by simp only [maxStored]; omega), List.append_assoc pre,
    ← lengths] at hcheck
  exact ⟨hlength, hcheck⟩

theorem reads_stored (hbytes : t.bytes.toList = pre ++ lengths b ++ b ++ post)
    (hpos : (t.position + 7) / 8 = pre.length) (hb : b.length ≤ maxStored)
    (hroom : t.room b.length = b.length) :
    Reads stored t () (t.made (pre ++ lengths b ++ b) b) := by
  have hsize : t.bytes.size = pre.length + 4 + b.length + post.length := by
    rw [← Array.length_toList, hbytes]
    simp only [List.length_append, length_lengths]
  have halign : { t with position := (t.position + 7) / 8 * 8 } = t.past pre := by
    rw [hpos, Nat.mul_comm, Tape.past]
  have hover : ¬(t.made (pre ++ lengths b ++ b) b).isOverrun = true := by
    simp only [Tape.isOverrun, Tape.made, Tape.past, decide_eq_true_eq, List.length_append,
      length_lengths]
    omega
  have hsum : ¬b.length + (maxStored - b.length) ≠ 65535 := by
    simp only [maxStored] at hb ⊢
    omega
  obtain ⟨hlength, hcheck⟩ := reads_lengths (by rw [hbytes, List.append_assoc]) hb
  unfold Deflate.stored
  refine (reads_align t).bind ?_
  rw [halign]
  refine (reads_need (by simp only [Tape.ahead, Tape.past]; omega)).bind ?_
  refine hlength.bind (hcheck.bind ?_)
  rw [if_neg hsum]
  refine (Reads.get _).bind ((Reads.get _).bind ((Reads.modify _ _).bind ((Reads.get _).bind ?_)))
  -- All bytes of the block are there and all are wanted, so neither way of stopping is taken.
  simp only [Tape.past_bytes, Tape.past_out, Tape.past_wanted, Tape.past_room, hroom]
  rw [made_append hbytes, if_neg hover, if_neg (Nat.lt_irrefl _)]
  exact .pure _ _

theorem number_block (hbytes : t.bytes.toList = pre ++ storedBlock last b ++ post) :
    t.number / 2 ^ (8 * pre.length) =
      last.toNat + 256 * Bytes.toNatLE (lengths b ++ b ++ post) := by
  rw [List.append_assoc] at hbytes
  rw [number_div hbytes, storedBlock, List.cons_append, Bytes.toNatLE, ← lengths]
  cases last <;> rfl

theorem reads_last (hbytes : t.bytes.toList = pre ++ storedBlock last b ++ post) :
    Reads bit (t.past pre) last.toNat { t with position := 8 * pre.length + 1 } := by
  have hvalue : (t.past pre).number / 2 ^ (8 * pre.length) % 2 = last.toNat := by
    have := last.toNat_lt
    rw [show (t.past pre).number = t.number from rfl, number_block hbytes]
    omega
  rw [← hvalue]
  exact reads_bit (t.past pre)

theorem reads_kind (hbytes : t.bytes.toList = pre ++ storedBlock last b ++ post) :
    Reads (bits 2) { t with position := 8 * pre.length + 1 } 0
      { t with position := 8 * pre.length + 3 } := by
  have hvalue : t.number / 2 ^ (8 * pre.length + 1) % 2 ^ 2 = 0 := by
    have := last.toNat_lt
    rw [Nat.pow_succ, ← Nat.div_div_eq_div_mul, number_block hbytes]
    omega
  rw [← hvalue]
  exact reads_bits 2 { t with position := 8 * pre.length + 1 }

/-- A stored block is read, and if it is not the last one, the blocks behind it. -/
theorem reads_block {fuel : Nat} {u : Tape}
    (hbytes : t.bytes.toList = pre ++ storedBlock last b ++ post) (hb : b.length ≤ maxStored)
    (hroom : t.room b.length = b.length)
    (hrest : Reads (if last.toNat = 1 then pure () else blocks fuel)
      (t.made (pre ++ storedBlock last b) b) () u) :
    Reads (blocks (fuel + 1)) (t.past pre) () u := by
  have hahead : leastBlock ≤ (t.past pre).ahead := by
    rw [Tape.ahead, Tape.past_bytes, ← Array.length_toList, hbytes]
    simp only [Tape.past, leastBlock, List.length_append, storedBlock, List.length_cons,
      Bytes.length_ofNatLE]
    omega
  have hblock : ∃ c, storedBlock last b = [c] ++ lengths b ++ b :=
    ⟨if last then 1 else 0, by rw [storedBlock, lengths]; rfl⟩
  obtain ⟨c, hc⟩ := hblock
  have hstored : Reads stored { t with position := 8 * pre.length + 3 } ()
      (t.made (pre ++ storedBlock last b) b) := by
    rw [hc, ← List.append_assoc, ← List.append_assoc] at hbytes ⊢
    refine reads_stored (t := { t with position := 8 * pre.length + 3 }) hbytes ?_ hb hroom
    rw [List.length_append, List.length_singleton]
    dsimp only
    omega
  rw [blocks]
  refine (reads_need hahead).bind ((reads_last hbytes).bind ((Reads.get _).bind ?_))
  exact (reads_kind hbytes).bind (hstored.bind hrest)

theorem room_of_le {w n : Nat} (hw : t.wanted = some w) (h : t.out.size + n ≤ w) :
    t.room n = n := by
  simp only [Tape.room, hw]
  omega

theorem made_made (t : Tape) (pre post a b : Bytes) :
    (t.made pre a).made post b = t.made post (a ++ b) := by
  simp [Tape.made, Tape.past, Array.append_assoc]

/-- All blocks that `store` writes are read, each with one unit of fuel. -/
theorem reads_store {fuel w : Nat} (b : Bytes) (hbytes : t.bytes.toList = pre ++ store b ++ post)
    (hfuel : b.length < fuel) (hw : t.wanted = some w) (hout : t.out.size + b.length ≤ w) :
    Reads (blocks fuel) (t.past pre) () (t.made (pre ++ store b) b) := by
  fun_induction store b generalizing t pre fuel with
  | case1 b hlong ih =>
    obtain ⟨fuel, rfl⟩ := Nat.exists_eq_add_one_of_ne_zero (Nat.ne_zero_of_lt hfuel)
    have htake : (b.take maxStored).length = maxStored := by
      rw [List.length_take, Nat.min_eq_left (Nat.le_of_lt hlong)]
    have hdrop : (b.drop maxStored).length = b.length - maxStored := List.length_drop
    have hpos : 0 < maxStored := by decide
    rw [← List.append_assoc] at hbytes ⊢
    have hmore := ih (t := t.made (pre ++ storedBlock false (b.take maxStored)) (b.take maxStored))
      hbytes (show _ < fuel by rw [hdrop]; omega) hw
      (by simp only [Tape.made, Array.size_append, List.size_toArray, htake, hdrop]; omega)
    rw [made_made, List.take_append_drop] at hmore
    rw [List.append_assoc] at hbytes
    exact reads_block hbytes (Nat.le_of_eq htake) (room_of_le hw (by omega)) hmore
  | case2 b hshort =>
    obtain ⟨fuel, rfl⟩ := Nat.exists_eq_add_one_of_ne_zero (Nat.ne_zero_of_lt hfuel)
    exact reads_block hbytes (Nat.not_lt.1 hshort) (room_of_le hw hout) (.pure _ _)

theorem length_storedBlock (last : Bool) (b : Bytes) :
    (storedBlock last b).length = b.length + 5 := by
  simp only [storedBlock, List.length_cons, List.length_append, Bytes.length_ofNatLE]
  omega

theorem length_le_length_store (b : Bytes) : b.length ≤ (store b).length := by
  fun_induction store b with
  | case1 b hlong ih =>
    rw [List.length_append, length_storedBlock]
    simp only [List.length_take, List.length_drop] at ih ⊢
    omega
  | case2 b => rw [length_storedBlock]; omega

theorem length_store_le (b : Bytes) : (store b).length ≤ 2 * b.length + 5 := by
  fun_induction store b with
  | case1 b hlong ih =>
    rw [List.length_append, length_storedBlock]
    simp only [List.length_take, List.length_drop, maxStored] at hlong ih ⊢
    omega
  | case2 b => rw [length_storedBlock]; omega

theorem inflate?_store (b tail : Bytes) : inflate? b.length (store b ++ tail) = some b.toArray := by
  have hfuel : b.length < 8 * (store b ++ tail).toArray.size + 1 := by
    have := length_le_length_store b
    rw [List.size_toArray, List.length_append]
    omega
  have h := reads_store (t := ⟨(store b ++ tail).toArray, 0, #[], some b.length⟩) b
    (show _ = [] ++ store b ++ tail from rfl) hfuel rfl (Nat.le_of_eq (Nat.zero_add _))
  have hread : read (some b.length) (store b ++ tail).toArray = (.ok (), _) := h
  simp [inflate?, hread, Tape.made]

end Stored

end Stagecraft.Deflate
