import Stagecraft.Time.Duration

/-!
Clocks: a reading is a number of nanoseconds. Nothing is promised about how readings follow each
other, nor about how long a sleep takes.
-/

set_option autoImplicit false

namespace Stagecraft

class Clock (χ : Type) where
  read : χ → Nat × χ
  sleep : Duration → χ → χ

/-- A clock that moves only while one sleeps, and then by exactly that time. -/
structure IdealClock where
  now : Nat := 0
  deriving DecidableEq

instance : Clock IdealClock where
  read c := (c.now, c)
  sleep d c := ⟨c.now + d.nanos⟩

end Stagecraft
