import Stagecraft.Files.Picture
import Stagecraft.Log.Setup
import Stagecraft.Troupe.Demo

/-!
The command line: plays the demonstration in real time and writes its last frame to a file, which
the first argument names.
-/

set_option autoImplicit false

namespace Stagecraft.Main

/-- A clock that shows what it was set to; whoever sets it has slept before. -/
structure SetClock where
  now : Nat

instance : Clock SetClock where
  read c := (c.now, c)
  sleep _ c := c

def target : String := "proscenium_demo"

def printLine (station : Log.Station) (l : Log.Line) : IO Unit := do
  for text in ({ station with stream := [] }.log target l).stream do
    IO.eprintln text

def finish {ε S α : Type} (station : Log.Station) (describe : ε → String)
    (o : Outcome Event ε S α) : IO (α × S) := do
  for entry in o.said do
    match entry with
    | .log l => printLine station l
    | .note _ => pure ()
  match o.result with
  | .ok x => return (x, o.state)
  | .error (.error e) => throw (IO.userError (describe e))
  | .error (.fault f) => throw (IO.userError f.message)

partial def loop (station : Log.Station) (started : Nat) (g : Demo.Show) (w : Stopwatch)
    (ticks : Nat) : IO (Demo.Show × Nat) := do
  if g.isRunning then
    let wait := (g.untilNext.getD .zero).nanos
    IO.sleep (.ofNat ((wait + 999999) / 1000000))
    let now ← IO.monoNanosNow
    let o : Outcome Event RunError (Demo.Show × SetClock) (Nat × Stopwatch) :=
      Game.round Demo.limits started w (g, ⟨now⟩)
    let describe (e : RunError) : String := e.message ++ ": " ++ e.cause.message
    let ((ran, w), (g, _)) ← finish station describe o
    loop station started g w (ticks + ran)
  else return (g, ticks)

def play (station : Log.Station) : IO Demo.Show := do
  let created (e : GameError) : String := "failed to create game: " ++ e.message
  let started (e : GameError) : String := "failed to start game: " ++ e.message
  let (g, _) ← finish station created (Demo.game Demo.registry)
  let (_, g) ← finish station started (Demo.start g)
  let begun ← IO.monoNanosNow
  let (g, ticks) ← loop station begun g (.default begun) 0
  let elapsed := (← IO.monoNanosNow) - begun
  printLine station ⟨.info, Demo.report g ⟨ticks, .ofNanos elapsed⟩⟩
  return g

def write (path : String) (b : Bytes) : IO Bool :=
  try
    IO.FS.writeBinFile path ⟨b.toArray⟩
    return true
  catch _ => return false

def save (path : String) (c : Canvas) : IO Unit := do
  match ← savePicture write path c with
  | .ok () => return
  | .error e => throw (IO.userError e.message)

end Stagecraft.Main

open Stagecraft in
def main (args : List String) : IO Unit := do
  let station := ({} : Log.Station).setup none (← IO.getEnv "RUST_LOG")
  for text in station.warnings ++ station.stream do
    IO.eprintln text
  let output := args.headD Demo.defaultOutput
  let g ← Main.play station
  Main.save output g.surface
  Main.printLine station ⟨.info, "final frame written to " ++ output⟩
