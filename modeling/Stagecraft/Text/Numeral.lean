/-!
Numerals: whole numbers written with the digits of a base up to sixteen.
-/

set_option autoImplicit false

namespace Stagecraft.Text

def hexDigit? (c : Char) : Option Nat :=
  if c.isDigit then some (c.toNat - 48)
  else if 'a' ≤ c ∧ c ≤ 'f' then some (c.toNat - 87)
  else if 'A' ≤ c ∧ c ≤ 'F' then some (c.toNat - 55)
  else none

def digit? (base : Nat) (c : Char) : Option Nat := (hexDigit? c).filter (· < base)

def isDigitOf (base : Nat) (c : Char) : Bool := (digit? base c).isSome

/-- The number that some digits stand for; there has to be one. -/
def numeral? (base : Nat) (digits : List Char) : Option Nat :=
  if digits.isEmpty then none
  else digits.foldlM (fun n c => (digit? base c).map (base * n + ·)) 0

end Stagecraft.Text
