import Stagecraft.Game.Actor
import Stagecraft.Game.Config
import Stagecraft.Store.Playlist
import Stagecraft.Store.Registry

/-!
Games: a surface, children in order, shared data and a timer. A game is created, may wait for a
gesture of the user, runs, and stops; it never goes back. Its host feeds it the time that passes,
and for every period of the timer it updates all children and draws them anew.
-/

set_option autoImplicit false

namespace Stagecraft

structure Game (κ W σ : Type) where
  surface : σ
  tickRate : UInt32
  maxCatchUp : UInt32
  timer : Option Metronome := none
  children : List κ := []
  data : Blackboard := {}
  audio : Playlist := {}
  overlay : Option Overlay := none
  phase : Phase := .created
  ticks : Nat := 0
  /-- Whether the pass before the timer starts is being made. -/
  arming : Bool := false
  world : W
  rate_pos : 0 < tickRate.toNat

namespace Game

variable {κ W σ ν ε : Type}

/-- A new game on a surface. Its data says that the first cycle is still to come. -/
def create [Surface σ ν] (s : σ) (w : W) (c : Config) : Act ν GameError Unit (Game κ W σ) :=
  if h : 0 < c.tickRate.toNat then do
    Act.log .debug s!"game created: {Surface.width ν s}x{Surface.height ν s} surface, {c.tickRate} Hz, gesture gate {c.needsGesture}"
    return {
      surface := s
      tickRate := c.tickRate
      maxCatchUp := c.maxCatchUp
      data := ({} : Blackboard).set Blackboard.firstCycle (.bool true)
      overlay := if c.needsGesture then some {} else none
      world := w
      rate_pos := h }
  else Act.fail .invalidTickRate

/-- A new game on the surface that is registered under an id. The surface leaves the registry. -/
def createFrom [Surface σ ν] (id : String) (w : W) (c : Config) :
    Act ν GameError (Registry σ) (Game κ W σ) := do
  let (taken, rest) := (← get).take id
  set rest
  match taken with
  | none => Act.fail (.surfaceNotFound id)
  | some s => Act.zoom (fun _ => ()) (fun _ r => r) (create s w c)

def isRunning (g : Game κ W σ) : Bool := g.phase = .running

def untilNext (g : Game κ W σ) : Option Duration := g.timer.map Metronome.untilNext

def add (g : Game κ W σ) (c : κ) : Game κ W σ := { g with children := g.children ++ [c] }

def remove (g : Game κ W σ) (i : Nat) : Option κ × Game κ W σ :=
  (g.children[i]?, { g with children := g.children.eraseIdx i })

def addAudio (g : Game κ W σ) (name path : String) : Game κ W σ :=
  { g with audio := g.audio.insert name path }

def stop : Act ν ε (Game κ W σ) Unit := do
  let g ← get
  if g.timer.isSome then
    Act.log .debug s!"game loop stopped after {g.ticks} ticks"
  set { g with timer := none, overlay := none, phase := .stopped }

def countTick : Act ν ε (Game κ W σ) Unit := do
  let g ← get
  if g.ticks + 1 < 2 ^ 64 then set { g with ticks := g.ticks + 1 }
  else Act.fault .addOverflow

def obeyStop : Act ν ε (Game κ W σ) Unit := do
  let g ← get
  if g.isRunning || g.arming then
    Act.log .debug s!"stop requested during tick {g.ticks - 1}"
    stop
  else
    Act.log .debug s!"ignoring stop request while {g.phase.name}"

/-- Updates every child once. A stop that a child requests comes when all had their turn. What the
children make of the number of the pass is forgotten after it. -/
def update [Actor κ W ν] : Act ν ε (Game κ W σ) Unit := do
  let g ← get
  let asked ← Act.zoom (fun g => (⟨g.data, g.ticks⟩, g.world))
    (fun p g => { g with data := p.1.data, world := p.2 })
    (Act.mapError nofun (Actor.updateAll g.children false))
  countTick
  if asked then obeyStop

def render [Actor κ W ν] [Surface σ ν] : Act ν GameError (Game κ W σ) Unit := do
  let g ← get
  Act.zoom (fun g => (g.world, g.surface)) (fun p g => { g with world := p.1, surface := p.2 })
    (Act.mapError .render (Actor.renderAll g.children))

def tick [Actor κ W ν] [Surface σ ν] : Act ν GameError (Game κ W σ) Unit := do
  update
  render

def startTimer : Act ν GameError (Game κ W σ) Unit := do
  let g ← get
  match Metronome.ofRate? g.tickRate with
  | .error f => Act.fault f
  | .ok none => Act.fail .invalidTickRate
  | .ok (some m) =>
    Act.log .debug s!"game loop running every {m.period.text}"
    set { g with timer := some (m.withCap g.maxCatchUp), phase := .running }

/-- Makes the first pass and then starts the timer, unless the pass fails or ends the game. -/
def arm [Actor κ W ν] [Surface σ ν] : Act ν GameError (Game κ W σ) Unit := do
  modify fun g => { g with arming := true }
  let first ← Act.attempt tick
  modify fun g => { g with arming := false }
  match first with
  | .error e => Act.fail e
  | .ok () =>
    modify fun g => { g with data := g.data.set Blackboard.firstCycle (.bool false) }
    if (← get).phase = .stopped then return ()
    startTimer

def start [Actor κ W ν] [Surface σ ν] : Act ν GameError (Game κ W σ) Unit := do
  let g ← get
  if g.phase = .created then
    match g.overlay with
    | some o =>
      set { g with overlay := some o.reveal, phase := .waiting }
      Act.log .debug "waiting for user gesture before starting"
    | none => arm
  else Act.fail (.invalidState "start" g.phase)

def gesture [Actor κ W ν] [Surface σ ν] : Act ν GameError (Game κ W σ) Unit := do
  let g ← get
  if g.phase = .waiting then
    arm
    modify fun g => { g with overlay := none }
  else Act.log .warn s!"ignoring user gesture while {g.phase.name}"

def ticksWhileRunning [Actor κ W ν] [Surface σ ν] : Nat → Act ν GameError (Game κ W σ) Nat
  | 0 => pure 0
  | n + 1 => do
    if (← get).isRunning then
      tick
      (· + 1) <$> ticksWhileRunning n
    else return 0

/-- Lets time pass, with one tick for every period that is due, and says how many ticks were made.
Without a timer nothing happens. -/
def advance [Actor κ W ν] [Surface σ ν] (elapsed : Duration) :
    Act ν GameError (Game κ W σ) Nat := do
  match (← get).timer with
  | none => return 0
  | some m =>
    let due ← Act.zoom (fun _ => m) (fun m g => { g with timer := some m })
      (Metronome.advance elapsed)
    ticksWhileRunning due

def shownFields (g : Game κ W σ) (surface : String) : List (String × String) :=
  [("surface", surface), ("tick_rate_hz", toString g.tickRate), ("state", g.phase.name),
    ("children", toString g.children.length), ("ticks", toString g.ticks)]

def term (g : Game κ W σ) (surface : String) : String :=
  let fields := (g.shownFields surface).map fun (n, t) => n ++ ": " ++ t
  "Game \x7b " ++ ", ".intercalate fields ++ ", .. \x7d"

def termLines (g : Game κ W σ) (surface : String) : String :=
  let lines := (g.shownFields surface).map fun (n, t) => "    " ++ n ++ ": " ++ t ++ ",\n"
  "Game \x7b\n" ++ String.join lines ++ "    ..\n\x7d"

end Game

end Stagecraft
