import Stagecraft.Number.Power

/-!
Spans of time in whole nanoseconds. Sums saturate at the longest span; the text shows a span in
the largest unit that it fills.
-/

set_option autoImplicit false

namespace Stagecraft

/-- The longest span: a 64-bit number of seconds and just under one second more. -/
def maxNanos : Nat := (2 ^ 64 - 1) * 10 ^ 9 + 999999999

structure Duration where
  nanos : Nat
  le_max : nanos ≤ maxNanos
  deriving DecidableEq

namespace Duration

def ofNanos (n : Nat) : Duration := ⟨min n maxNanos, Nat.min_le_right n maxNanos⟩

def zero : Duration := ⟨0, Nat.zero_le _⟩

instance : Inhabited Duration := ⟨zero⟩

instance : LE Duration := ⟨fun a b => a.nanos ≤ b.nanos⟩
instance : LT Duration := ⟨fun a b => a.nanos < b.nanos⟩
instance (a b : Duration) : Decidable (a ≤ b) := inferInstanceAs (Decidable (a.nanos ≤ b.nanos))
instance (a b : Duration) : Decidable (a < b) := inferInstanceAs (Decidable (a.nanos < b.nanos))

def addSat (a b : Duration) : Duration := ofNanos (a.nanos + b.nanos)

def subSat (a b : Duration) : Duration :=
  ⟨a.nanos - b.nanos, Nat.le_trans (Nat.sub_le ..) a.le_max⟩

def sub? (a b : Duration) : Option Duration := if b ≤ a then some (a.subSat b) else none

def mul? (a : Duration) (k : Nat) : Option Duration :=
  if h : a.nanos * k ≤ maxNanos then some ⟨a.nanos * k, h⟩ else none

def clamp (d lo hi : Duration) : Duration := if d < lo then lo else if hi < d then hi else d

/-- A fraction below one as decimal digits without trailing zeros: `n` counts units of
`10 ^ (-places)`. -/
def fraction (places n : Nat) : String :=
  let digits := Nat.toDigits 10 n
  let padded := List.replicate (places - digits.length) '0' ++ digits
  String.ofList (padded.reverse.dropWhile (· == '0')).reverse

def inUnits (places n : Nat) (unit : String) : String :=
  let rest := n % 10 ^ places
  toString (n / 10 ^ places) ++ (if rest = 0 then "" else "." ++ fraction places rest) ++ unit

def text (d : Duration) : String :=
  if 10 ^ 9 ≤ d.nanos then inUnits 9 d.nanos "s"
  else if 10 ^ 6 ≤ d.nanos then inUnits 6 d.nanos "ms"
  else if 10 ^ 3 ≤ d.nanos then inUnits 3 d.nanos "µs"
  else inUnits 0 d.nanos "ns"

/-- The text with a fixed number of places after the point; a half is rounded up. -/
def roundedText (d : Duration) (places : Nat) : String :=
  let inUnit (digits : Nat) (unit : String) : String :=
    let n := (2 * d.nanos * 10 ^ places + 10 ^ digits) / (2 * 10 ^ digits)
    let rest := Nat.toDigits 10 (n % 10 ^ places)
    let padded := String.ofList (List.replicate (places - rest.length) '0' ++ rest)
    toString (n / 10 ^ places) ++ (if places = 0 then "" else "." ++ padded) ++ unit
  if 10 ^ 9 ≤ d.nanos then inUnit 9 "s"
  else if 10 ^ 6 ≤ d.nanos then inUnit 6 "ms"
  else if 10 ^ 3 ≤ d.nanos then inUnit 3 "µs"
  else inUnit 0 "ns"

end Duration

end Stagecraft
