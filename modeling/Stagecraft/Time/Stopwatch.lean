import Stagecraft.Fault
import Stagecraft.Time.Duration

/-!
Stopwatches: the time between readings of a clock, clamped so that neither a stall nor a clock that
stands still reaches the caller as such. A reading is a number of nanoseconds.
-/

set_option autoImplicit false

namespace Stagecraft

structure Stopwatch where
  last : Nat
  frames : UInt64
  least : Duration
  most : Duration
  least_le_most : least ≤ most

/-- One sample: the clamped time since the reading before, and how many samples came earlier. -/
structure Frame where
  length : Duration
  index : UInt64

namespace Stopwatch

def make (least most : Duration) (now : Nat) : Except Fault Stopwatch :=
  if h : least ≤ most then .ok ⟨now, 0, least, most, h⟩ else .error .clampOrder

def default (now : Nat) : Stopwatch :=
  ⟨now, 0, .ofNanos 100000, .ofNanos 250000000, by decide⟩

def reset (w : Stopwatch) (now : Nat) : Stopwatch := { w with last := now }

/-- Samples the clock. A reading earlier than the one before counts as no time. -/
def tick (w : Stopwatch) (now : Nat) : Frame × Stopwatch :=
  (⟨(Duration.ofNanos (now - w.last)).clamp w.least w.most, w.frames⟩,
    { w with last := now, frames := w.frames + 1 })

end Stopwatch

end Stagecraft
