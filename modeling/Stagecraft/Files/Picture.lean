import Stagecraft.Codec.Bmp
import Stagecraft.Codec.Gif
import Stagecraft.Codec.Png
import Stagecraft.Files.Disk

/-!
Pictures in files. The extension of a file decides how its contents are read and written.
-/

set_option autoImplicit false

namespace Stagecraft

inductive PictureFormat where
  | png
  | bmp
  | gif
  deriving DecidableEq, Repr

namespace PictureFormat

def ofPath? (path : String) : Option PictureFormat :=
  match Path.kind? path with
  | some "png" => some .png
  | some "apng" => some .png
  | some "bmp" => some .bmp
  | some "gif" => some .gif
  | _ => none

def decode? : PictureFormat → Bytes → Except Fault (Option Image)
  | .png, b => Png.decode? b
  | .bmp, b => .ok (Bmp.decode? b)
  | .gif, b => .ok (Gif.decode? b)

def encode? : PictureFormat → Image → Option Bytes
  | .png, i => Png.encode? i
  | .bmp, i => Bmp.encode? i
  | .gif, i => Gif.encode? i

end PictureFormat

structure SaveError where
  path : String
  deriving DecidableEq, Repr

def SaveError.message (e : SaveError) : String := "failed to write canvas to " ++ e.path

/-- Gives a picture to a writer of files, which answers whether it took it. The format has to be one
that can hold opacity. -/
def savePicture {m : Type → Type} [Monad m] (write : String → Bytes → m Bool) (path : String)
    (i : Image) : m (Except SaveError Unit) := do
  let written ← match (PictureFormat.ofPath? path).bind (·.encode? i) with
    | some b => write path b
    | none => pure false
  return if written then .ok () else .error ⟨path⟩

namespace Disk

def picture? (d : Disk) (path : String) : Except Fault (Option Image) :=
  match PictureFormat.ofPath? path, d.read? path with
  | some format, some b => format.decode? b
  | _, _ => .ok none

def write (path : String) (b : Bytes) : StateM Disk Bool := fun d =>
  match d.write? path b with
  | some d => (true, d)
  | none => (false, d)

def save (d : Disk) (path : String) (i : Image) : Except SaveError Unit × Disk :=
  savePicture write path i d

end Disk

end Stagecraft
