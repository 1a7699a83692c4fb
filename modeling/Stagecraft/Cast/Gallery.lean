import Stagecraft.Raster.Image

/-!
The gallery: images that may still be on their way. A handle names a place in the gallery; all who
hold the handle see the same place, and a place is filled at most once.
-/

set_option autoImplicit false

namespace Stagecraft

structure Handle where
  index : Nat
  deriving DecidableEq, Repr

structure Gallery where
  places : Array (Option Image) := #[]

namespace Gallery

instance : Inhabited Gallery := ⟨{}⟩

def pending (g : Gallery) : Handle × Gallery := (⟨g.places.size⟩, ⟨g.places.push none⟩)

def ready (g : Gallery) (i : Image) : Handle × Gallery :=
  (⟨g.places.size⟩, ⟨g.places.push (some i)⟩)

def get? (g : Gallery) (h : Handle) : Option Image := g.places[h.index]?.join

def isLoaded (g : Gallery) (h : Handle) : Bool := (g.get? h).isSome

/-- Brings the image of a handle. If there was one already, the new one is handed back. -/
def resolve (g : Gallery) (h : Handle) (i : Image) : Except Image Gallery :=
  if g.isLoaded h then .error i
  else .ok ⟨g.places.modify h.index fun _ => some i⟩

theorem get?_resolve_self {g g' : Gallery} {h : Handle} {i : Image}
    (hh : h.index < g.places.size) (hr : g.resolve h i = .ok g') : g'.get? h = some i := by
  unfold resolve at hr
  split at hr
  · cases hr
  · cases hr
    simp [get?, hh, Array.getElem_modify_self]

theorem get?_resolve_of_ne {g g' : Gallery} {h k : Handle} {i : Image} (hk : k ≠ h)
    (hr : g.resolve h i = .ok g') : g'.get? k = g.get? k := by
  unfold resolve at hr
  split at hr
  · cases hr
  · cases hr
    have hi : h.index ≠ k.index := fun e => hk (by cases h; cases k; simp_all)
    simp [get?, Array.getElem?_modify, hi]

end Gallery

end Stagecraft
