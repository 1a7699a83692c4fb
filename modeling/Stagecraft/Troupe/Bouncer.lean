import Stagecraft.Cast.Sprite
import Stagecraft.Store.Blackboard

/-!
Bouncers: sprites that walk to and fro between the walls of the stage and count how often they hit
one. The count is shared on the blackboard, and at the fourth hit the game is to stop.
-/

set_option autoImplicit false

namespace Stagecraft

structure Bouncer where
  sprite : Sprite
  speed : Scalar
  deriving DecidableEq

namespace Bouncer

def limit : Scalar := 224

def hits : String := "bounces"

def maxHits : Int64 := 4

def costumeEvery : Nat := 10

/-- Walks one step; the answer is whether it goes beyond a wall. At a wall it stands still there
and turns round. -/
def walk (b : Bouncer) : Bool × Bouncer :=
  let x := b.sprite.x.add b.speed
  if limit < x.abs then
    (true, ⟨{ b.sprite with x := x.clamp limit.neg limit }, b.speed.neg⟩)
  else (false, { b with sprite := { b.sprite with x := x } })

def dress (tick : Nat) (b : Bouncer) : Bouncer :=
  if tick % costumeEvery = 0 then { b with sprite := b.sprite.next } else b

variable {ν ε : Type}

def countHit (tick : Nat) : Act ν ε Blackboard Bool := do
  let data ← get
  match data.plus? hits 1 with
  | none => Act.fault .addOverflow
  | some n =>
    set (data.set hits (.int n))
    Act.log .info s!"bounce {n.toInt} at tick {tick}"
    return decide (maxHits ≤ n)

def update (tick : Nat) : Act ν ε (Blackboard × Bouncer) Bool := do
  let (_, b) ← get
  let (hit, b) := b.walk
  modify fun p => (p.1, b)
  let stop ← if hit then Act.zoom Prod.fst (fun d p => (d, p.2)) (countHit tick) else pure false
  modify fun p => (p.1, p.2.dress tick)
  return stop

end Bouncer

end Stagecraft
