import Stagecraft.Cast.Costume
import Stagecraft.Proofs.Act
import Stagecraft.Proofs.Codec.Bmp
import Stagecraft.Proofs.Codec.Png

/-!
Pictures that are saved and opened again. Main statement: `save_opens_iff`. A picture can be saved
in every folder that is there, under a name that ends in one of the two extensions, unless a bitmap
would be too long a file. Opening it gives back each of its pixels exactly when its samples are not
too many and, in a bitmap, no side is too long.
-/

set_option autoImplicit false

namespace Stagecraft

section Formats

variable {format : PictureFormat} {i : Image} {b : Bytes}

/-- The image stays within what the reader of the format takes. -/
def PictureFormat.Admits (format : PictureFormat) (i : Image) : Prop :=
  4 * (i.width * i.height) ≤ Image.maxBytes ∧
    (format = .bmp → i.width ≤ Bmp.maxSide ∧ i.height ≤ Bmp.maxSide)

/-- The formats that keep each pixel as it is. -/
def PictureFormat.IsExact (format : PictureFormat) : Prop := format = .png ∨ format = .bmp

theorem PictureFormat.exists_of_kind? {path : String}
    (h : Path.kind? path = some "png" ∨ Path.kind? path = some "bmp") :
    ∃ format, ofPath? path = some format ∧ format.IsExact ∧
      (format = .bmp ↔ Path.kind? path = some "bmp") := by
  rcases h with h | h
  · exact ⟨.png, by simp [ofPath?, h], .inl rfl, by simp [h]⟩
  · exact ⟨.bmp, by simp [ofPath?, h], .inr rfl, by simp [h]⟩

theorem PictureFormat.isSome_encode?_iff (hf : format.IsExact) (hw : 0 < i.width)
    (hh : 0 < i.height) : (format.encode? i).isSome ↔
      (format = .bmp → 122 + 4 * (i.width * i.height) < 2 ^ 32) := by
  rcases hf with rfl | rfl
  · have hsome : encode? .png i = some _ := if_neg (by omega)
    simp [hsome]
  · by_cases hsize : 122 + 4 * (i.width * i.height) < 2 ^ 32
    · simp [encode?, Bmp.encode?, hsize]
    · simp [encode?, Bmp.encode?, hsize]

theorem PictureFormat.decode?_eq_iff (hf : format.IsExact) (hb : format.encode? i = some b)
    (hw : 0 < i.width) (hh : 0 < i.height) (hw' : i.width < 256 ^ 4) (hh' : i.height < 256 ^ 4) :
    format.decode? b = .ok (some i) ↔ format.Admits i := by
  rcases hf with rfl | rfl
  · rw [decode?, Png.decode?_of_encode? hb hw' hh']
    by_cases hsize : Image.maxBytes < 4 * (i.width * i.height)
    · simp [Admits, hsize]
    · simp [Admits, hsize, Nat.not_lt.1 hsize]
  · obtain ⟨-, hb⟩ := Option.ite_none_right_eq_some.1 hb
    cases hb
    rw [decode?, Except.ok.injEq, Bmp.decode?_encode_eq_some_iff hw' hh' hw hh]
    simp only [Admits, true_imp_iff]
    exact ⟨fun ⟨hwide, hhigh, hsize⟩ => ⟨hsize, hwide, hhigh⟩,
      fun ⟨hsize, hwide, hhigh⟩ => ⟨hwide, hhigh, hsize⟩⟩

end Formats

section Files

variable {d : Disk} {path : String} {i : Image} {b : Bytes} {format : PictureFormat}

theorem Disk.save_of_encode? (hpath : (d.place? path).isSome)
    (hformat : PictureFormat.ofPath? path = some format) (hb : format.encode? i = some b) :
    (d.save path i).1 = .ok () ∧ (d.save path i).2.picture? path = format.decode? b := by
  obtain ⟨d', hwrite, hread⟩ := exists_write? b hpath
  have hsave : d.save path i = (.ok (), d') := by
    simp only [save, savePicture, hformat, Option.bind_some, hb, bind, StateT.bind, write, hwrite]
    rfl
  rw [hsave]
  exact ⟨rfl, by simp only [picture?, hformat, hread]⟩

theorem Disk.save_of_not_encode? (hformat : PictureFormat.ofPath? path = some format)
    (hb : format.encode? i = none) : d.save path i = (.error ⟨path⟩, d) := by
  simp only [save, savePicture, hformat, Option.bind_some, hb]
  rfl

theorem Disk.save_succeeds_iff (hpath : (d.place? path).isSome)
    (hformat : PictureFormat.ofPath? path = some format) :
    (d.save path i).1 = .ok () ↔ (format.encode? i).isSome := by
  cases hb : format.encode? i with
  | none => simp [save_of_not_encode? hformat hb]
  | some b => simp [save_of_encode? hpath hformat hb]

end Files

section Opening

variable {ν : Type} {d : Disk} {g : Gallery} {path : String} {i : Image}

/-- Opening the file at its full size gives a costume that shows this image. -/
def Costume.Opens (ν : Type) (d : Disk) (path : String) (g : Gallery) (i : Image) : Prop :=
  ∃ c, ((Costume.ofFile d path 1 : Act ν _ _ _) g).result = .ok c ∧
    ((Costume.ofFile d path 1 : Act ν _ _ _) g).state.get? c.image = some i

theorem Gallery.get?_ready (g : Gallery) (i : Image) :
    (g.ready i).2.get? (g.ready i).1 = some i := by
  simp [get?, ready]

theorem Costume.ofFile_of_imageOf {r : Nat} (g : Gallery) (h : imageOf d path r = .ok i) :
    ((ofFile d path r : Act ν _ _ _) g).result = .ok ⟨(g.ready i).1, 0⟩ ∧
      ((ofFile d path r : Act ν _ _ _) g).state = (g.ready i).2 := by
  simp only [ofFile, h]
  exact ⟨rfl, rfl⟩

theorem Costume.opens_of_imageOf {j : Image} (h : imageOf d path 1 = .ok j) :
    Opens ν d path g i ↔ j = i := by
  have hready := g.get?_ready j
  obtain ⟨hresult, hstate⟩ := ofFile_of_imageOf (ν := ν) g h
  simp only [Opens, hresult, hstate, Except.ok.injEq, exists_eq_left', hready, Option.some.injEq]

theorem Costume.opens_iff (hkind : Path.kind? path ≠ some "svg") :
    Opens ν d path g i ↔ d.picture? path = .ok (some i) := by
  rcases hpicture : d.picture? path with fault | _ | j
  · simp [Opens, ofFile, imageOf, hkind, hpicture]
  · simp [Opens, ofFile, imageOf, hkind, hpicture]
  · have himage : imageOf d path 1 = .ok j := by
      simp [imageOf, hkind, hpicture, Image.downscale]
    rw [opens_of_imageOf himage, Except.ok.injEq, Option.some.injEq]

/-- A picture whose sides are words of 32 bits can be saved wherever there is a place for it, except
for a bitmap that would be too long. Opening it gives it back exactly when it stays within what is
read. -/
theorem Disk.save_opens_iff (ν : Type) (d : Disk) (g : Gallery) {path : String} {i : Image}
    (hpath : (d.place? path).isSome)
    (hkind : Path.kind? path = some "png" ∨ Path.kind? path = some "bmp")
    (hw : 0 < i.width) (hh : 0 < i.height) (hw' : i.width < 2 ^ 32) (hh' : i.height < 2 ^ 32) :
    ((d.save path i).1 = .ok () ↔
        (Path.kind? path = some "bmp" → 122 + 4 * (i.width * i.height) < 2 ^ 32)) ∧
      ((d.save path i).1 = .ok () →
        (Costume.Opens ν (d.save path i).2 path g i ↔ 4 * (i.width * i.height) ≤ 2 ^ 29 ∧
          (Path.kind? path = some "bmp" → i.width ≤ 65535 ∧ i.height ≤ 65535))) := by
  obtain ⟨format, hformat, hexact, hbmp⟩ := PictureFormat.exists_of_kind? hkind
  have hsaved := Disk.save_succeeds_iff (i := i) hpath hformat
  refine ⟨?_, fun hsave => ?_⟩
  · rw [hsaved, PictureFormat.isSome_encode?_iff hexact hw hh, hbmp]
  · obtain ⟨b, hb⟩ := Option.isSome_iff_exists.1 (hsaved.1 hsave)
    have hdrawing : Path.kind? path ≠ some "svg" := by
      rcases hkind with hkind | hkind <;> simp [hkind]
    rw [Costume.opens_iff hdrawing, (Disk.save_of_encode? hpath hformat hb).2,
      PictureFormat.decode?_eq_iff hexact hb hw hh hw' hh', ← hbmp]
    rfl

/-- A translucent pixel beside one that is not seen but has a colour. -/
def shot : Image := ⟨2, 1, #[⟨255, 0, 0, 128⟩, ⟨1, 2, 3, 0⟩], rfl⟩

def studio : Disk := { folders := [[], ["shots"]] }

theorem Disk.save_opens_iff_shot :
    (studio.place? "shots/Last.PNG").isSome ∧ Path.kind? "shots/Last.PNG" = some "png" ∧
      (studio.save "shots/Last.PNG" shot).1 = .ok () ∧
        Costume.Opens Unit (studio.save "shots/Last.PNG" shot).2 "shots/Last.PNG" {} shot := by
  have hpath : (studio.place? "shots/Last.PNG").isSome := by decide +kernel
  have hkind : Path.kind? "shots/Last.PNG" = some "png" := by decide +kernel
  obtain ⟨hsave, hopens⟩ := Disk.save_opens_iff Unit studio {} hpath (.inl hkind)
    (i := shot) (by decide) (by decide) (by decide) (by decide)
  have hsaved := hsave.2 (by simp [hkind])
  exact ⟨hpath, hkind, hsaved, (hopens hsaved).2 ⟨by decide, by simp [hkind]⟩⟩

/-- A bitmap with a side of 65536 pixels is written but not read again. -/
theorem Disk.wide_bitmap_not_opened :
    (Disk.empty.save "wide.bmp" (.blank 65536 1)).1 = .ok () ∧
      ¬Costume.Opens Unit (Disk.empty.save "wide.bmp" (.blank 65536 1)).2 "wide.bmp" {}
        (.blank 65536 1) := by
  have hpath : (Disk.empty.place? "wide.bmp").isSome := by decide +kernel
  have hkind : Path.kind? "wide.bmp" = some "bmp" := by decide +kernel
  have hformat : PictureFormat.ofPath? "wide.bmp" = some .bmp := by
    simp [PictureFormat.ofPath?, hkind]
  have hexact : PictureFormat.IsExact .bmp := .inr rfl
  obtain ⟨b, hb⟩ := Option.isSome_iff_exists.1
    ((PictureFormat.isSome_encode?_iff (i := .blank 65536 1) hexact (by decide) (by decide)).2
      fun _ => by decide)
  obtain ⟨hsave, hpicture⟩ := Disk.save_of_encode? hpath hformat hb
  refine ⟨hsave, ?_⟩
  rw [Costume.opens_iff (by simp [hkind]), hpicture,
    PictureFormat.decode?_eq_iff hexact hb (by decide) (by decide) (by decide) (by decide)]
  intro h
  exact absurd (h.2 rfl).1 (by decide)

end Opening

end Stagecraft
