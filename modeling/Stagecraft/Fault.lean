/-!
Faults: conditions under which an operation gives up altogether, as opposed to an error that it
hands back to its caller.
-/

set_option autoImplicit false

namespace Stagecraft

inductive Fault where
  | emptyPeriod
  /-- A counter or a stored whole number would leave its range. -/
  | addOverflow
  | durationMulOverflow
  | durationSubOverflow
  /-- The least frame length was above the greatest. -/
  | clampOrder
  /-- A part up to `stop` was to be taken from something shorter. -/
  | sliceEnd (stop length : Nat)
  | nothingOpen
  deriving DecidableEq, Repr

def Fault.message : Fault → String
  | .emptyPeriod => "Interval period must be non-zero"
  | .addOverflow => "attempt to add with overflow"
  | .durationMulOverflow => "overflow when multiplying duration by scalar"
  | .durationSubOverflow => "overflow when subtracting durations"
  | .clampOrder => "assertion failed: dt_min <= dt_max"
  | .sliceEnd stop length =>
    s!"range end index {stop} out of range for slice of length {length}"
  | .nothingOpen =>
    "internal error: entered unreachable code: should be already checked by the tokenizer"

end Stagecraft
