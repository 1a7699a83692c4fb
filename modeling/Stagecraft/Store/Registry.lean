import Std.Data.TreeMap.Lemmas

set_option autoImplicit false

namespace Stagecraft

structure Registry (σ : Type) where
  entries : Std.TreeMap String σ := {}

namespace Registry

variable {σ : Type}

instance : Inhabited (Registry σ) := ⟨{}⟩

def get? (r : Registry σ) (id : String) : Option σ := r.entries[id]?

def contains (r : Registry σ) (id : String) : Bool := r.entries.contains id

def insert (r : Registry σ) (id : String) (s : σ) : Option σ × Registry σ :=
  (r.get? id, ⟨r.entries.insert id s⟩)

/-- Hands out the surface with this id, which is then no longer registered. -/
def take (r : Registry σ) (id : String) : Option σ × Registry σ :=
  (r.get? id, ⟨r.entries.erase id⟩)

theorem get?_take_self (r : Registry σ) (id : String) : (r.take id).2.get? id = none := by
  simp [take, get?]

theorem get?_take_of_ne (r : Registry σ) {id other : String} (h : id ≠ other) :
    (r.take id).2.get? other = r.get? other := by
  simp [take, get?, Std.TreeMap.getElem?_erase, h]

end Registry

end Stagecraft
