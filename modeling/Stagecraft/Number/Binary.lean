import Stagecraft.Number.BinaryFormat

/-!
Numbers of a binary floating-point format: arithmetic rounds the exact result once, comparisons
with the value that is not a number are false, and the interchange encoding keeps the sign of zero.
-/

set_option autoImplicit false

namespace Stagecraft

/-- A number of format `f`. A finite one is a sign and a number of units. -/
inductive Binary (f : BinaryFormat) where
  | nan
  | infinite (negative : Bool)
  | finite (negative : Bool) (units : Nat) (representable : f.Representable units)
  deriving DecidableEq

abbrev Scalar := Binary single

namespace Binary

variable {f g : BinaryFormat}

def signed (negative : Bool) (u : Nat) : Int := if negative then -(u : Int) else u

/-- The number nearest to `n / d` units; too large a result is infinite. -/
def round (negative : Bool) (n d : Nat) : Binary f :=
  if h : f.roundUnits n d < f.limit then
    .finite negative (f.roundUnits n d) ⟨f.gap_dvd_roundUnits n d, h⟩
  else
    .infinite negative

def zero (negative : Bool) : Binary f := round negative 0 1

def ofUnits (s : Int) : Binary f := round (decide (s < 0)) s.natAbs 1

def ofNat (n : Nat) : Binary f := round false (n * f.one) 1

instance (n : Nat) : OfNat (Binary f) n := ⟨ofNat n⟩

instance : Inhabited (Binary f) := ⟨0⟩

def convert : Binary f → Binary g
  | .nan => .nan
  | .infinite a => .infinite a
  | .finite a u _ => round a (u * g.one) f.one

/-- The number nearest to `m * 10 ^ e`. A magnitude that no rounding could bring into range is
settled without forming the power. -/
def ofDecimal (negative : Bool) (m : Nat) (e : Int) : Binary f :=
  let digits := (Nat.toDigits 10 m).length
  if m = 0 then zero negative
  else if (f.bound : Int) < e then .infinite negative
  else if e + digits < -(f.scale + 1 : Int) then zero negative
  else if 0 ≤ e then round negative (m * 10 ^ e.toNat * f.one) 1
  else round negative (m * f.one) (10 ^ (-e).toNat)

def isNan : Binary f → Bool
  | .nan => true
  | _ => false

def isFinite : Binary f → Bool
  | .finite .. => true
  | _ => false

protected def neg : Binary f → Binary f
  | .nan => .nan
  | .infinite a => .infinite (!a)
  | .finite a u h => .finite (!a) u h

def abs : Binary f → Binary f
  | .nan => .nan
  | .infinite _ => .infinite false
  | .finite _ u h => .finite false u h

/-- Opposite infinities have no sum, and a zero sum is negative only if both terms are. -/
protected def add : Binary f → Binary f → Binary f
  | .nan, _ => .nan
  | _, .nan => .nan
  | .infinite a, .infinite b => if a = b then .infinite a else .nan
  | .infinite a, .finite .. => .infinite a
  | .finite .., .infinite b => .infinite b
  | .finite a u _, .finite b v _ =>
    if signed a u + signed b v = 0 then zero (a && b) else ofUnits (signed a u + signed b v)

protected def mul : Binary f → Binary f → Binary f
  | .nan, _ => .nan
  | _, .nan => .nan
  | .infinite a, .infinite b => .infinite (a != b)
  | .infinite a, .finite b v _ => if v = 0 then .nan else .infinite (a != b)
  | .finite a u _, .infinite b => if u = 0 then .nan else .infinite (a != b)
  | .finite a u _, .finite b v _ => round (a != b) (u * v) f.one

protected def div : Binary f → Binary f → Binary f
  | .nan, _ => .nan
  | _, .nan => .nan
  | .infinite _, .infinite _ => .nan
  | .infinite a, .finite b _ _ => .infinite (a != b)
  | .finite a _ _, .infinite b => zero (a != b)
  | .finite a u _, .finite b v _ =>
    if v = 0 then
      if u = 0 then .nan else .infinite (a != b)
    else
      round (a != b) (u * f.one) v

instance : Neg (Binary f) := ⟨Binary.neg⟩
instance : Add (Binary f) := ⟨Binary.add⟩
instance : Sub (Binary f) := ⟨fun x y => Binary.add x y.neg⟩
instance : Mul (Binary f) := ⟨Binary.mul⟩
instance : Div (Binary f) := ⟨Binary.div⟩

/-- Position on the number line in units, with infinity one step past the finite values; none for
what is not a number. -/
def key : Binary f → Option Int
  | .nan => none
  | .infinite a => some (signed a f.limit)
  | .finite a u _ => some (signed a u)

def related (r : Int → Int → Bool) (x y : Binary f) : Bool :=
  match x.key, y.key with
  | some i, some j => r i j
  | _, _ => false

instance : LT (Binary f) := ⟨fun x y => related (fun i j => decide (i < j)) x y = true⟩
instance : LE (Binary f) := ⟨fun x y => related (fun i j => decide (i ≤ j)) x y = true⟩

instance (x y : Binary f) : Decidable (x < y) := inferInstanceAs (Decidable (_ = true))
instance (x y : Binary f) : Decidable (x ≤ y) := inferInstanceAs (Decidable (_ = true))

/-- Equality of value: the two zeros are equal, and what is not a number equals nothing. -/
def equal (x y : Binary f) : Bool := related (fun i j => decide (i = j)) x y

/-- The larger one; an operand that is not a number yields to the other. -/
def max (x y : Binary f) : Binary f :=
  if x.isNan then y else if y.isNan then x else if x < y then y else x

def min (x y : Binary f) : Binary f :=
  if x.isNan then y else if y.isNan then x else if y < x then y else x

def clamp (x lo hi : Binary f) : Binary f :=
  if x < lo then lo else if hi < x then hi else x

end Binary

namespace BinaryFormat

variable (f : BinaryFormat)

def infinityBits : Nat := (f.bound + f.scale + 2 - f.precision) * 2 ^ (f.precision - 1)

def signBit : Nat := f.infinityBits + 2 ^ (f.precision - 1)

end BinaryFormat

namespace Binary

variable {f : BinaryFormat}

/-- The interchange encoding; all values that are not a number share one. -/
def toBits : Binary f → Nat
  | .nan => f.infinityBits + 2 ^ (f.precision - 2)
  | .infinite a => (if a then f.signBit else 0) + f.infinityBits
  | .finite a u _ =>
    (if a then f.signBit else 0) +
      ((u.log2 + 1 - f.precision) * 2 ^ (f.precision - 1) + u / f.gap u)

def ofBits (b : Nat) : Binary f :=
  let negative := f.signBit ≤ b
  let m := b % f.signBit
  let half := 2 ^ (f.precision - 1)
  if f.infinityBits < m then .nan
  else if m = f.infinityBits then .infinite negative
  else if m < half then round negative m 1
  else round negative ((m % half + half) * 2 ^ (m / half - 1)) 1

end Binary

end Stagecraft
