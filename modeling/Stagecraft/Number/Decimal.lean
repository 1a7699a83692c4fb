import Stagecraft.Number.Binary

/-!
Decimal numbers in text: an optional sign, digits with an optional point among them, and an
optional power of ten.
-/

set_option autoImplicit false

namespace Stagecraft

/-- The number `digits * 10 ^ power` with its sign. -/
structure Decimal where
  negative : Bool
  digits : Nat
  power : Int
  deriving DecidableEq, Repr

namespace Decimal

def sign : List Char → Bool × List Char
  | '-' :: r => (true, r)
  | '+' :: r => (false, r)
  | r => (false, r)

def natOf (digits : List Char) : Nat := digits.foldl (fun n c => 10 * n + (c.toNat - 48)) 0

def digitsOf (s : List Char) : List Char × List Char := s.span Char.isDigit

/-- The power of ten at the front and what follows it. An `e` without digits is no power. -/
def powerOf (s : List Char) : Int × List Char :=
  match s with
  | c :: r =>
    let (negative, r) := sign r
    let (digits, r) := digitsOf r
    if (c = 'e' ∨ c = 'E') ∧ !digits.isEmpty then
      (if negative then -(natOf digits : Int) else natOf digits, r)
    else (0, s)
  | [] => (0, s)

def front? (s : List Char) : Option (Decimal × List Char) :=
  let (negative, s) := sign s
  let (whole, s) := digitsOf s
  let (part, s) := match s with
    | '.' :: r => digitsOf r
    | r => ([], r)
  if whole.isEmpty && part.isEmpty then none
  else
    let (power, s) := powerOf s
    some (⟨negative, natOf (whole ++ part), power - part.length⟩, s)

def toBinary {f : BinaryFormat} (d : Decimal) : Binary f := .ofDecimal d.negative d.digits d.power

end Decimal

end Stagecraft
