import Stagecraft.Game.Basic
import Stagecraft.Time.Clock
import Stagecraft.Time.Stopwatch

/-!
Running a game against a clock: sleep until the next tick is due, look at the clock, and feed the
game the time that has passed, until it stops or a limit is reached.
-/

set_option autoImplicit false

namespace Stagecraft

structure Limits where
  maxTicks : Option Nat := none
  maxDuration : Option Duration := none
  deriving DecidableEq

def Limits.term (l : Limits) : String :=
  let ticks := match l.maxTicks with
    | some n => s!"Some({n})"
    | none => "None"
  let duration := match l.maxDuration with
    | some d => s!"Some({d.text})"
    | none => "None"
  s!"RuntimeConfig \x7b max_ticks: {ticks}, max_duration: {duration} \x7d"

structure Summary where
  ticks : Nat
  elapsed : Duration
  deriving DecidableEq

/-- A tick failed during a run; `ticks` is how many the game has made in all. -/
structure RunError where
  ticks : Nat
  cause : GameError
  deriving DecidableEq

def RunError.message (e : RunError) : String := s!"game tick failed after {e.ticks} ticks"

namespace Game

variable {κ W σ ν ε χ α : Type} [Actor κ W ν] [Surface σ ν] [Clock χ]

def onGame (a : Act ν ε (Game κ W σ) α) : Act ν ε (Game κ W σ × χ) α :=
  Act.zoom Prod.fst (fun g p => (g, p.2)) a

def readClock : Act ν ε (Game κ W σ × χ) Nat :=
  Act.zoom Prod.snd (fun c p => (p.1, c)) (modifyGet Clock.read)

def sleep (d : Duration) : Act ν ε (Game κ W σ × χ) Unit :=
  Act.zoom Prod.snd (fun c p => (p.1, c)) (modify (Clock.sleep d))

def limitReached (l : Limits) (started : Nat) : Act ν ε (Game κ W σ × χ) Bool := do
  let g := (← get).1
  let ticksDone := l.maxTicks.any fun n => decide (n ≤ g.ticks)
  match l.maxDuration with
  | none => return ticksDone
  | some d =>
    let now ← readClock
    return ticksDone || decide (d ≤ .ofNanos (now - started))

def round (l : Limits) (started : Nat) (w : Stopwatch) :
    Act ν RunError (Game κ W σ × χ) (Nat × Stopwatch) := do
  match (← get).1.untilNext with
  | some d => sleep d
  | none => pure ()
  let (frame, w) := w.tick (← readClock)
  match ← Act.attempt (onGame (advance frame.length)) with
  | .error e => Act.fail ⟨(← get).1.ticks, e⟩
  | .ok ran =>
    if ← limitReached l started then
      Act.log .info s!"runtime limit reached after {(← get).1.ticks} ticks"
      onGame stop
    return (ran, w)

/-- Rounds until the game is no longer running, with the number of ticks made; none if `fuel`
rounds were not enough. -/
def rounds (l : Limits) (started : Nat) :
    (fuel : Nat) → Stopwatch → Act ν RunError (Game κ W σ × χ) (Option Nat)
  | 0, _ => do return if (← get).1.isRunning then none else some 0
  | fuel + 1, w => do
    if (← get).1.isRunning then
      let (ran, w) ← round l started w
      Option.map (ran + ·) <$> rounds l started fuel w
    else return some 0

/-- Runs a game until it stops or a limit is reached. A game that is not running is left alone. No
summary comes back if `fuel` rounds were not enough. -/
def run (l : Limits) (fuel : Nat) : Act ν RunError (Game κ W σ × χ) (Option Summary) := do
  let started ← readClock
  let w := Stopwatch.default (← readClock)
  let g := (← get).1
  if !g.isRunning then
    Act.log .warn s!"runtime started on a game that is {g.phase.name}"
  let w := w.reset (← readClock)
  match ← rounds l started fuel w with
  | none => return none
  | some ticks => return some ⟨ticks, .ofNanos ((← readClock) - started)⟩

end Game

end Stagecraft
