import Stagecraft.Codec.Bytes
import Stagecraft.Files.Path

/-!
The disk: folders within folders and the files in them. Each is known by its route, the names that
lead to it from the root.
-/

set_option autoImplicit false

namespace Stagecraft

abbrev Route := List String

/-- Folders are only looked up; files are also written, and the last one written counts. -/
structure Disk where
  folders : List Route := [[]]
  /-- Where a path begins that does not begin at the root. -/
  home : Route := []
  files : List (Route × Bytes) := []
  root_mem : [] ∈ folders := by decide +kernel
  home_mem : home ∈ folders := by decide +kernel
  parent_mem : ∀ r ∈ folders, r.dropLast ∈ folders := by decide +kernel
  file_mem : ∀ f ∈ files, f.1.dropLast ∈ folders ∧ f.1 ∉ folders := by decide +kernel

namespace Disk

variable {d : Disk}

def empty : Disk := {}

instance : Inhabited Disk := ⟨empty⟩

def step? (d : Disk) (r : Route) (segment : String) : Option Route :=
  if segment = "" ∨ segment = "." then some r
  else if segment = ".." then some r.dropLast
  else if r ++ [segment] ∈ d.folders then some (r ++ [segment])
  else none

theorem step?_mem {r r' : Route} {segment : String} (hr : r ∈ d.folders)
    (h : d.step? r segment = some r') : r' ∈ d.folders := by
  unfold step? at h
  split at h
  · cases h
    exact hr
  · split at h
    · cases h
      exact d.parent_mem r hr
    · obtain ⟨hmem, hr'⟩ := Option.ite_none_right_eq_some.1 h
      cases hr'
      exact hmem

theorem foldlM_step?_mem {segments : List String} {r r' : Route} (hr : r ∈ d.folders)
    (h : segments.foldlM d.step? r = some r') : r' ∈ d.folders := by
  induction segments generalizing r with
  | nil =>
    cases h
    exact hr
  | cons segment segments ih =>
    obtain ⟨next, hnext, hrest⟩ := Option.bind_eq_some_iff.1 h
    exact ih (step?_mem hr hnext) hrest

def maxName : Nat := 255

def maxPath : Nat := 4095

def parent? (d : Disk) (before : List String) : Option Route :=
  before.foldlM d.step? (if before.head? = some "" then [] else d.home)

theorem parent?_mem {before : List String} {r : Route} (h : d.parent? before = some r) :
    r ∈ d.folders := by
  refine foldlM_step?_mem ?_ h
  split
  · exact d.root_mem
  · exact d.home_mem

/-- The place for a file that a path leads to: a name in a folder that is there, and no folder has
it. -/
def place? (d : Disk) (path : String) : Option Route := do
  let segments := Path.segments path
  let name ← segments.getLast?
  let r ← d.parent? segments.dropLast
  if name ∉ ["", ".", ".."] ∧ name.utf8ByteSize ≤ maxName ∧ path.utf8ByteSize ≤ maxPath ∧
      '\x00' ∉ path.toList ∧ r ++ [name] ∉ d.folders then
    some (r ++ [name])
  else none

theorem place?_mem {path : String} {r : Route} (h : d.place? path = some r) :
    r.dropLast ∈ d.folders ∧ r ∉ d.folders := by
  obtain ⟨name, -, h⟩ := Option.bind_eq_some_iff.1 h
  obtain ⟨folder, hfolder, h⟩ := Option.bind_eq_some_iff.1 h
  obtain ⟨hname, hr⟩ := Option.ite_none_right_eq_some.1 h
  cases hr
  exact ⟨by simpa using parent?_mem hfolder, hname.2.2.2.2⟩

def read? (d : Disk) (path : String) : Option Bytes := do d.files.lookup (← d.place? path)

def put (d : Disk) (r : Route) (b : Bytes) (h : r.dropLast ∈ d.folders ∧ r ∉ d.folders) : Disk :=
  { d with files := (r, b) :: d.files, file_mem := List.forall_mem_cons.2 ⟨h, d.file_mem⟩ }

/-- The disk with this file, none if the path leads to no place for one. -/
def write? (d : Disk) (path : String) (b : Bytes) : Option Disk :=
  match h : d.place? path with
  | some r => some (d.put r b (place?_mem h))
  | none => none

theorem place?_put (d : Disk) (path : String) (r : Route) (b : Bytes)
    (h : r.dropLast ∈ d.folders ∧ r ∉ d.folders) : (d.put r b h).place? path = d.place? path :=
  rfl

theorem exists_write? {path : String} (b : Bytes) (h : (d.place? path).isSome) :
    ∃ d', d.write? path b = some d' ∧ d'.read? path = some b := by
  obtain ⟨r, hr⟩ := Option.isSome_iff_exists.1 h
  refine ⟨d.put r b (place?_mem hr), ?_, ?_⟩
  · unfold write?
    split
    next hplace =>
      cases hplace.symm.trans hr
      rfl
    next hplace => cases hplace.symm.trans hr
  · rw [read?, place?_put, hr]
    exact List.lookup_cons_self

end Disk

end Stagecraft
