import Stagecraft.Text.Quoted

/-!
What a game and its sprites report to their callers, and in which words.
-/

set_option autoImplicit false

namespace Stagecraft

inductive Phase where
  | created
  | waiting
  | running
  | stopped
  deriving DecidableEq, Repr

def Phase.name : Phase → String
  | .created => "Created"
  | .waiting => "WaitingForUserGesture"
  | .running => "Running"
  | .stopped => "Stopped"

inductive RenderError where
  | noCostumes
  | costumeOutOfRange (index length : Nat)
  deriving DecidableEq, Repr

namespace RenderError

def message : RenderError → String
  | .noCostumes => "sprite has no costumes"
  | .costumeOutOfRange i n => s!"active costume {i} out of range for {n} costume(s)"

def term : RenderError → String
  | .noCostumes => "NoCostumes"
  | .costumeOutOfRange i n => s!"CostumeOutOfRange \x7b index: {i}, len: {n} \x7d"

end RenderError

inductive GameError where
  | surfaceNotFound (id : String)
  | invalidTickRate
  | invalidState (operation : String) (phase : Phase)
  | render (e : RenderError)
  deriving DecidableEq, Repr

namespace GameError

def message : GameError → String
  | .surfaceNotFound id => "no drawing surface with id " ++ Text.quote id
  | .invalidTickRate => "tick rate must be at least 1 Hz"
  | .invalidState op p => s!"cannot {op} a game that is {p.name}"
  | .render e => "render failed: " ++ e.message

def term : GameError → String
  | .surfaceNotFound id => s!"SurfaceNotFound({Text.quote id})"
  | .invalidTickRate => "InvalidTickRate"
  | .invalidState op p => s!"InvalidState \x7b op: {Text.quote op}, state: {p.name} \x7d"
  | .render e => s!"Render({e.term})"

def cause : GameError → Option RenderError
  | .render e => some e
  | _ => none

def rootMessage (e : GameError) : String :=
  match e.cause with
  | some r => r.message
  | none => e.message

end GameError

end Stagecraft
