import Stagecraft.Text.Numeral
import Stagecraft.Text.Quoted

/-!
Numbers and texts that are written can be read again. Main statements: the digits of a number stand
for it (`numeral?_toDigits`), and every escape is told from whatever follows it (`front?_escape`), so
that two quoted texts are the same only if the texts are (`quote_inj`).
-/

set_option autoImplicit false

namespace Stagecraft.Text

/-- What stands before the first `x` and what follows it. -/
theorem append_cons_inj {α : Type} {x : α} {u v s t : List α} (hu : x ∉ u) (hv : x ∉ v)
    (h : u ++ x :: s = v ++ x :: t) : u = v ∧ s = t := by
  induction u generalizing v with
  | nil =>
    cases v with
    | nil => exact ⟨rfl, (List.cons.inj h).2⟩
    | cons b v => exact absurd (List.cons.inj h).1 (List.ne_of_not_mem_cons hv)
  | cons a u ih =>
    cases v with
    | nil => exact absurd (List.cons.inj h).1.symm (List.ne_of_not_mem_cons hu)
    | cons b v =>
      obtain ⟨rfl, hrest⟩ := List.cons.inj h
      obtain ⟨rfl, rfl⟩ :=
        ih (List.not_mem_of_not_mem_cons hu) (List.not_mem_of_not_mem_cons hv) hrest
      exact ⟨rfl, rfl⟩

section Numerals

variable {base : Nat}

theorem hexDigit?_digitChar {d : Nat} (h : d < 16) : hexDigit? d.digitChar = some d := by
  revert d
  decide

theorem digit?_digitChar {d : Nat} (hd : d < base) (hb : base ≤ 16) :
    digit? base d.digitChar = some d := by
  simp [digit?, hexDigit?_digitChar (Nat.lt_of_lt_of_le hd hb), hd]

theorem foldlM_toDigits (h₁ : 1 < base) (hb : base ≤ 16) (n : Nat) :
    (Nat.toDigits base n).foldlM (fun m c => (digit? base c).map (base * m + ·)) 0 = some n := by
  induction n using Nat.strongRecOn with
  | ind n ih =>
    rw [Nat.toDigits_eq_if h₁]
    split
    next hn => simp [digit?_digitChar hn hb]
    next hn =>
      have hmod : n % base < base := Nat.mod_lt n (by omega)
      rw [List.foldlM_append, ih (n / base) (Nat.div_lt_self (by omega) h₁)]
      simp [digit?_digitChar hmod hb, Nat.div_add_mod]

theorem numeral?_toDigits (h₁ : 1 < base) (hb : base ≤ 16) (n : Nat) :
    numeral? base (Nat.toDigits base n) = some n := by
  simp [numeral?, foldlM_toDigits h₁ hb]

theorem toDigits_inj (h₁ : 1 < base) (hb : base ≤ 16) {m n : Nat} :
    Nat.toDigits base m = Nat.toDigits base n ↔ m = n := by
  constructor
  · intro h
    have hread := congrArg (numeral? base) h
    rw [numeral?_toDigits h₁ hb, numeral?_toDigits h₁ hb] at hread
    exact Option.some.inj hread
  · exact congrArg _

theorem mem_toDigits (h₁ : 1 < base) {n : Nat} {c : Char} (h : c ∈ Nat.toDigits base n) :
    ∃ d, c = Nat.digitChar d := by
  induction n using Nat.strongRecOn with
  | ind n ih =>
    rw [Nat.toDigits_eq_if h₁] at h
    split at h
    · exact ⟨n, by simpa using h⟩
    · rcases List.mem_append.1 h with h | h
      · exact ih (n / base) (Nat.div_lt_self (by omega) h₁) h
      · exact ⟨n % base, by simpa using h⟩

/-- Digits end where the first other character stands. -/
theorem toDigits_append_inj (h₁ : 1 < base) (hb : base ≤ 16) {x : Char}
    (hx : ∀ d, x ≠ Nat.digitChar d) {m n : Nat} {s t : List Char} :
    Nat.toDigits base m ++ x :: s = Nat.toDigits base n ++ x :: t ↔ m = n ∧ s = t := by
  have hmem (k : Nat) : x ∉ Nat.toDigits base k := by
    intro h
    obtain ⟨d, hd⟩ := mem_toDigits h₁ h
    exact hx d hd
  constructor
  · intro h
    obtain ⟨hd, hs⟩ := append_cons_inj (hmem m) (hmem n) h
    exact ⟨(toDigits_inj h₁ hb).1 hd, hs⟩
  · rintro ⟨rfl, rfl⟩
    rfl

end Numerals

/-- The characters that have a letter for their escape. -/
def named? (letter : Char) : Option Char :=
  [('0', '\x00'), ('t', '\t'), ('r', '\r'), ('n', '\n'), ('\\', '\\'), ('"', '"')].lookup letter

/-- The character of a code point that ends with a brace, and what follows it. -/
def coded? (s : List Char) : Option (Char × List Char) := do
  let n ← numeral? 16 (s.takeWhile (· != '\x7d'))
  return (Char.ofNat n, (s.dropWhile (· != '\x7d')).drop 1)

def front? : List Char → Option (Char × List Char)
  | '\\' :: 'u' :: '\x7b' :: s => coded? s
  | '\\' :: letter :: s => (named? letter).map (·, s)
  | '"' :: _ => none
  | c :: s => some (c, s)
  | [] => none

theorem coded?_toDigits (c : Char) (s : List Char) :
    coded? (Nat.toDigits 16 c.toNat ++ '\x7d' :: s) = some (c, s) := by
  have hdigit : ∀ a ∈ Nat.toDigits 16 c.toNat, (a != '\x7d') = true := by
    intro a ha
    obtain ⟨d, rfl⟩ := mem_toDigits (by decide) ha
    simp
  simp [coded?, List.takeWhile_append_of_pos hdigit, List.dropWhile_append_of_pos hdigit,
    numeral?_toDigits]

theorem front?_escape (c : Char) (s : List Char) : front? (escape c ++ s) = some (c, s) := by
  unfold escape
  iterate 6
    split
    · subst c; rfl
  split
  · simp_all [front?]
  · simp [codePoint, front?, coded?_toDigits]

theorem front?_nil : front? [] = none := rfl

theorem flatMap_escape_inj {s t : List Char} : s.flatMap escape = t.flatMap escape ↔ s = t := by
  refine ⟨fun h => ?_, congrArg _⟩
  induction s generalizing t with
  | nil =>
    have hread := congrArg front? h
    cases t with
    | nil => rfl
    | cons b t => simp [front?_nil, front?_escape] at hread
  | cons a s ih =>
    have hread := congrArg front? h
    cases t with
    | nil => simp [front?_nil, front?_escape] at hread
    | cons b t =>
      simp only [List.flatMap_cons, front?_escape, Option.some.injEq, Prod.mk.injEq] at hread
      rw [hread.1, ih hread.2]

/-- Every text has a quoted form of its own. -/
theorem quote_inj {s t : String} : quote s = quote t ↔ s = t := by
  rw [quote, quote, String.ofList_inj, List.cons_inj_right, List.append_left_inj,
    flatMap_escape_inj, String.toList_inj]

end Stagecraft.Text
