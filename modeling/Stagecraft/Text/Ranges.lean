/-!
Classes of characters given as ranges of code points, both ends included.
-/

set_option autoImplicit false

namespace Stagecraft.Text

def inRanges (ranges : List (Nat × Nat)) (c : Char) : Bool :=
  ranges.any fun r => r.1 ≤ c.toNat && c.toNat ≤ r.2

end Stagecraft.Text
