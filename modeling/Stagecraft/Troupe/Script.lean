import Stagecraft.Cast.Sprite
import Stagecraft.Troupe.Event

/-!
Scripts: programs of cues for players. A cue is followed on every pass or on some passes only.
-/

set_option autoImplicit false

namespace Stagecraft

inductive Cue where
  | move (dx dy : Scalar)
  | nextCostume
  | data (r : Request)
  | increase (key : String) (n : Int64)
  | stop
  | stopIf (key : String) (n : Int64)
  | noteStopRequested
  | fail (e : RenderError)
  | heal
  deriving DecidableEq

structure Instruction where
  cue : Cue
  /-- The only pass on which the cue is followed. -/
  tick : Option Nat := none
  every : Option Nat := none
  deriving DecidableEq

def Instruction.applies (i : Instruction) (tick : Nat) : Bool :=
  i.tick.all (· = tick) && i.every.all (tick % · = 0)

structure Player where
  name : String
  program : List Instruction := []
  sprite : Option Sprite := none
  failure : Option RenderError := none
  deriving DecidableEq

namespace Player

variable {ε : Type}

/-- Follows a cue. `stop` says whether a stop was requested so far; the answer is whether it is
now. -/
def follow (name : String) (stop : Bool) : Cue → Act Event ε (Blackboard × Player) Bool
  | .move dx dy => do
    modify fun (d, p) =>
      (d, { p with sprite := p.sprite.map fun s => { s with x := s.x.add dx, y := s.y.add dy } })
    return stop
  | .nextCostume => do
    modify fun (d, p) => (d, { p with sprite := p.sprite.map Sprite.next })
    return stop
  | .data r => do
    let (d, p) ← get
    let (answer, d) := d.serve r
    set (d, p)
    Act.note (.data name answer)
    return stop
  | .increase key n => do
    let (d, p) ← get
    match d.plus? key n with
    | none => Act.fault .addOverflow
    | some sum => set (d.set key (.int sum), p)
    return stop
  | .stop => return true
  | .stopIf key n => return stop || ((← get).1.int? key).any fun v => decide (n ≤ v)
  | .noteStopRequested => do
    Act.note (.stopRequested name stop)
    return stop
  | .fail e => do
    modify fun (d, p) => (d, { p with failure := some e })
    return stop
  | .heal => do
    modify fun (d, p) => (d, { p with failure := none })
    return stop

def followAll (name : String) : List Cue → Bool → Act Event ε (Blackboard × Player) Bool
  | [], stop => pure stop
  | c :: rest, stop => do followAll name rest (← follow name stop c)

def update (tick : Nat) (stop : Bool) : Act Event ε (Blackboard × Player) Bool := do
  let p := (← get).2
  Act.note (.update p.name tick)
  followAll p.name ((p.program.filter (·.applies tick)).map (·.cue)) stop

def render {σ : Type} [Surface σ Event] (p : Player) (g : Gallery) :
    Act Event RenderError σ Unit :=
  match p.failure with
  | some e => Act.fail e
  | none => do
    Act.note (.render p.name)
    match p.sprite with
    | some s => s.render g
    | none => pure ()

end Player

end Stagecraft
