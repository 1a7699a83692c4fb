import Stagecraft.Act
import Stagecraft.Number.Binary
import Stagecraft.Time.Duration

/-!
Metronomes: repeating timers driven by elapsed time. Elapsed time piles up; every whole period in
the pile is reported once, and the remainder carries over. At most a fixed number of periods is
reported at a time, and a larger backlog is dropped.
-/

set_option autoImplicit false

namespace Stagecraft

structure Metronome where
  period : Duration
  pending : Duration := .zero
  fired : Nat := 0
  cap : UInt32
  period_pos : 0 < period.nanos
  cap_pos : 0 < cap.toNat

namespace Metronome

def defaultCap : UInt32 := 5

def make (period : Duration) : Except Fault Metronome :=
  if h : 0 < period.nanos then
    .ok ⟨period, .zero, 0, defaultCap, h, by decide⟩
  else
    .error .emptyPeriod

/-- A cap of zero counts as one. -/
def withCap (m : Metronome) (cap : UInt32) : Metronome :=
  if h : 0 < cap.toNat then { m with cap := cap, cap_pos := h }
  else { m with cap := 1, cap_pos := by decide }

def nanosOfSeconds : Binary double → Nat
  | .finite false u _ => nearest (u * 10 ^ 9) double.one
  | _ => 0

/-- One second divided by a rate: the quotient is rounded to double precision, then to
nanoseconds. -/
def periodOfRate (hz : UInt32) : Duration :=
  .ofNanos (nanosOfSeconds (1 / Binary.ofNat hz.toNat))

/-- A metronome with this many beats a second, none for no beats. A rate so high that its period
rounds to nothing is a fault. -/
def ofRate? (hz : UInt32) : Except Fault (Option Metronome) :=
  if hz = 0 then .ok none else (make (periodOfRate hz)).map some

def untilNext (m : Metronome) : Duration := m.period.subSat m.pending

variable {ν ε : Type}

def report (n : Nat) : Act ν ε Metronome Nat := do
  let m ← get
  if m.fired + n < 2 ^ 64 then
    set { m with fired := m.fired + n }
    return n
  else
    Act.fault .addOverflow

/-- Adds elapsed time and reports how many periods are due. When a backlog is dropped, the
remainder of the last period is kept in 64 bits of nanoseconds. -/
def advance (elapsed : Duration) : Act ν ε Metronome Nat := do
  let m ← get
  let pending := m.pending.addSat elapsed
  let due := pending.nanos / m.period.nanos
  if m.cap.toNat < due then
    Act.log .trace s!"dropping {due - m.cap.toNat} overdue periods"
    set { m with pending := .ofNanos (pending.nanos % m.period.nanos % 2 ^ 64) }
    report m.cap.toNat
  else
    match m.period.mul? due with
    | none => Act.fault .durationMulOverflow
    | some span =>
      match pending.sub? span with
      | none => Act.fault .durationSubOverflow
      | some rest =>
        set { m with pending := rest }
        report due

end Metronome

end Stagecraft
