import Stagecraft.Number.Binary

set_option autoImplicit false

namespace Stagecraft

structure Point where
  x : Scalar
  y : Scalar
  deriving DecidableEq

namespace Point

def zero : Point := ⟨0, 0⟩

instance : Inhabited Point := ⟨zero⟩

instance : Add Point := ⟨fun p q => ⟨p.x + q.x, p.y + q.y⟩⟩

def isFinite (p : Point) : Bool := p.x.isFinite && p.y.isFinite

def equal (p q : Point) : Bool := p.x.equal q.x && p.y.equal q.y

end Point

end Stagecraft
