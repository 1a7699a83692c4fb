import Stagecraft.Game.Run
import Stagecraft.Troupe.Basic

/-!
A small show: a bouncer in two colours and a sprite in a corner of the stage.
-/

set_option autoImplicit false

namespace Stagecraft.Demo

abbrev Show := Game MemberId Troupe Canvas

def surfaceId : String := "stage"

def registry : Registry Canvas := (({} : Registry Canvas).insert surfaceId Canvas.stage).2

/-- Images of this width are centred by an offset of the same size. -/
def bouncerSide : Nat := 32

def images : List Image :=
  [.square bouncerSide ⟨230, 80, 40, 255⟩, .square bouncerSide ⟨40, 120, 230, 255⟩,
    .square 12 ⟨250, 220, 60, 255⟩]

def bouncer : Bouncer :=
  let wear (i : Nat) : Costume := ⟨⟨i⟩, .ofNat bouncerSide⟩
  ⟨{ costumes := [wear 0, wear 1] }, 6⟩

def corner : Sprite := { x := Binary.neg 200, y := 150, costumes := [.ofHandle ⟨2⟩] }

def troupe : Troupe :=
  { members := #[.bouncer bouncer, .sprite corner]
    gallery := ⟨(images.map some).toArray⟩ }

def sound : String := "bounce"

def game : Act Event GameError (Registry Canvas) Show := do
  let g : Show ← Game.createFrom surfaceId troupe {}
  return ((g.addAudio sound "bounce.wav").add ⟨0⟩).add ⟨1⟩

def start : Act Event GameError Show Unit := do
  Game.start
  if (← get).phase = .waiting then Game.gesture

def limits : Limits := { maxDuration := some (.ofNanos (10 * 10 ^ 9)) }

def report (g : Show) (s : Summary) : String :=
  let hits := ((g.data.int? Bouncer.hits).getD 0).toInt
  let path := match g.audio.get? sound with
    | some p => s!"Some({Text.quote p})"
    | none => "None"
  s!"ran {s.ticks} ticks in {s.elapsed.roundedText 2}, {hits} bounce(s); bounce sound at {path}"

def defaultOutput : String := "proscenium-demo.png"

end Stagecraft.Demo
