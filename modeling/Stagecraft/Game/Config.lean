import Stagecraft.Time.Metronome

/-!
How a game is set up, and the prompt that it shows while it waits to be started.
-/

set_option autoImplicit false

namespace Stagecraft

structure Config where
  tickRate : UInt32 := 60
  maxCatchUp : UInt32 := Metronome.defaultCap
  /-- Whether the host plays nothing until its user acts. -/
  needsGesture : Bool := false
  deriving DecidableEq

structure Overlay where
  message : String := "Press to enable audio"
  visible : Bool := false
  deriving DecidableEq

def Overlay.reveal (o : Overlay) : Overlay := { o with visible := true }

end Stagecraft
