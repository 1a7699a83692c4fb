import Std.Data.TreeMap.Basic
import Stagecraft.Game.Basic
import Stagecraft.Troupe.Bouncer
import Stagecraft.Troupe.Script

/-!
Troupes: all the members that can be children of a game, with the gallery of their images. A child
is the number of a member, so one member can be a child more than once, and its host can reach it
between two ticks.
-/

set_option autoImplicit false

namespace Stagecraft

inductive Member where
  | sprite (s : Sprite)
  | bouncer (b : Bouncer)
  | player (p : Player)
  deriving DecidableEq

structure MemberId where
  index : Nat
  deriving DecidableEq, Repr

structure Troupe where
  members : Array Member := #[]
  names : Std.TreeMap String MemberId := {}
  gallery : Gallery := {}

namespace Member

def update (tick : Nat) (stop : Bool) : Act Event Empty (Blackboard × Member) Bool := do
  let (_, m) ← get
  match m with
  | .sprite _ => return false
  | .bouncer b =>
    Act.zoom (fun q => (q.1, b)) (fun q _ => (q.1, .bouncer q.2)) (Bouncer.update tick)
  | .player p =>
    Act.zoom (fun q => (q.1, p)) (fun q _ => (q.1, .player q.2)) (Player.update tick stop)

def render {σ : Type} [Surface σ Event] (g : Gallery) : Member → Act Event RenderError σ Unit
  | .sprite s => s.render g
  | .bouncer b => b.sprite.render g
  | .player p => p.render g

end Member

namespace Troupe

def get? (t : Troupe) (i : MemberId) : Option Member := t.members[i.index]?

def set (t : Troupe) (i : MemberId) (m : Member) : Troupe :=
  { t with members := t.members.setIfInBounds i.index m }

def enter (t : Troupe) (m : Member) : MemberId × Troupe :=
  (⟨t.members.size⟩, { t with members := t.members.push m })

def rename (t : Troupe) (name : String) (i : MemberId) : Troupe :=
  { t with names := t.names.insert name i }

def find? (t : Troupe) (name : String) : Option MemberId := t.names[name]?

instance : Actor MemberId Troupe Event where
  update i stop := do
    let (now, t) ← get
    match t.get? i with
    | none => return false
    | some m =>
      Act.zoom (fun q => (q.1.data, m)) (fun q r => (⟨q.1, r.1.tick⟩, r.2.set i q.2))
        (Member.update now.tick stop)
  render i := do
    let (t, _) ← get
    match t.get? i with
    | none => pure ()
    | some m => Act.zoom Prod.snd (fun s q => (q.1, s)) (m.render t.gallery)

end Troupe

end Stagecraft
