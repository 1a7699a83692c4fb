import Std.Data.TreeMap.Lemmas

/-!
The playlist of a game: which sound file stands behind a name. Nothing is opened here.
-/

set_option autoImplicit false

namespace Stagecraft

structure Playlist where
  entries : Std.TreeMap String String := {}

namespace Playlist

instance : Inhabited Playlist := ⟨{}⟩

def directory : String := "assets"

/-- A path seen from the directory. An absolute path stands for itself; nothing is normalised. -/
def place (path : String) : String :=
  if path.startsWith "/" then path else directory ++ "/" ++ path

def insert (p : Playlist) (name path : String) : Playlist := ⟨p.entries.insert name (place path)⟩

def get? (p : Playlist) (name : String) : Option String := p.entries[name]?

@[simp] theorem get?_insert_self (p : Playlist) (name path : String) :
    (p.insert name path).get? name = some (place path) := by simp [get?, insert]

theorem get?_insert_of_ne (p : Playlist) {name other : String} (path : String)
    (h : name ≠ other) : (p.insert name path).get? other = p.get? other := by
  simp [get?, insert, Std.TreeMap.getElem?_insert, h]

def size (p : Playlist) : Nat := p.entries.size

def isEmpty (p : Playlist) : Bool := p.entries.isEmpty

def toList (p : Playlist) : List (String × String) := p.entries.toList

end Playlist

end Stagecraft
