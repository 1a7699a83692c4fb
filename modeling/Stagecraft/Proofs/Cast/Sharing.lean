import Stagecraft.Cast.Sprite
import Stagecraft.Proofs.Act

/-!
Who shares which image. A wardrobe is all that a host holds: handles, costumes and sprites over one
gallery. Beside it runs a ledger without a gallery, in which each of them only remembers the birth
of its image, and which lists all images that were ever offered. Main statement: what is seen
through any of them is the image of that birth, or else the first one that was offered to it.
-/

set_option autoImplicit false

namespace Stagecraft

/-- Something through which an image is seen: a handle, a costume, or a costume in a sprite. -/
inductive Holder where
  | handle (n : Nat)
  | costume (n : Nat)
  | worn (sprite n : Nat)
  deriving DecidableEq

/-- What a host does with images. One that names nothing it holds comes to nothing. -/
inductive Dressing where
  | pendingHandle
  | readyHandle (i : Image)
  | keepHandle (r : Holder)
  | newCostume (i : Image)
  | pendingCostume
  | ofHandle (r : Holder)
  | cloneCostume (r : Holder)
  | offset (n : Nat) (x : Scalar)
  | newSprite (x y : Scalar)
  | addCostume (sprite n : Nat)
  | cloneSprite (n : Nat)
  | resolve (r : Holder) (i : Image)

def Dressing.offsetFor (r : Holder) : Dressing → Option Scalar
  | .offset n x => if r = .costume n then some x else none
  | _ => none

structure Wardrobe where
  gallery : Gallery := {}
  handles : List Handle := []
  costumes : List Costume := []
  sprites : List Sprite := []

namespace Wardrobe

def costume? (w : Wardrobe) : Holder → Option Costume
  | .handle _ => none
  | .costume n => w.costumes[n]?
  | .worn s n => w.sprites[s]?.bind (·.costumes[n]?)

def handle? (w : Wardrobe) : Holder → Option Handle
  | .handle n => w.handles[n]?
  | .costume n => (w.costume? (.costume n)).map Costume.image
  | .worn s n => (w.costume? (.worn s n)).map Costume.image

def image? (w : Wardrobe) (r : Holder) : Option Image := (w.handle? r).bind w.gallery.get?

def size? (w : Wardrobe) (r : Holder) : Option (Nat × Nat) :=
  (w.image? r).map fun i => (i.width, i.height)

def offset? (w : Wardrobe) (r : Holder) : Option Scalar := (w.costume? r).map Costume.xOffset

def offer (w : Wardrobe) (r : Holder) (i : Image) : Option (Except Image Gallery) :=
  (w.handle? r).map (w.gallery.resolve · i)

def keep (w : Wardrobe) (a : Act Empty Empty Gallery Costume) : Wardrobe :=
  { w with
    gallery := (a w.gallery).state
    costumes := w.costumes ++ (a w.gallery).result.toOption.toList }

def after (w : Wardrobe) : Dressing → Wardrobe
  | .pendingHandle =>
    { w with gallery := w.gallery.pending.2, handles := w.handles ++ [w.gallery.pending.1] }
  | .readyHandle i =>
    { w with gallery := (w.gallery.ready i).2, handles := w.handles ++ [(w.gallery.ready i).1] }
  | .keepHandle r => { w with handles := w.handles ++ (w.handle? r).toList }
  | .newCostume i => w.keep (Costume.make i)
  | .pendingCostume => w.keep Costume.pending
  | .ofHandle r =>
    { w with costumes := w.costumes ++ ((w.handle? r).map Costume.ofHandle).toList }
  | .cloneCostume r => { w with costumes := w.costumes ++ (w.costume? r).toList }
  | .offset n x => { w with costumes := w.costumes.modify n (·.withXOffset x) }
  | .newSprite x y => { w with sprites := w.sprites ++ [.place x y] }
  | .addCostume s n =>
    { w with sprites := w.sprites.modify s fun p => (w.costumes[n]?).elim p p.addCostume }
  | .cloneSprite n => { w with sprites := w.sprites ++ w.sprites[n]?.toList }
  | .resolve r i => { w with gallery := ((w.offer r i).bind Except.toOption).getD w.gallery }

def run (ops : List Dressing) : Wardrobe := ops.foldl after {}

end Wardrobe

/-- A costume in the ledger: the number of its image's birth, and its offset. -/
structure Tag where
  origin : Nat
  xOffset : Scalar

structure Ledger where
  /-- What each image was born as: nothing, where it was still on its way. -/
  births : List (Option Image) := []
  /-- All images offered so far, with the births they were offered for. -/
  offers : List (Nat × Image) := []
  handles : List Nat := []
  costumes : List Tag := []
  sprites : List (List Tag) := []

namespace Ledger

def tag? (l : Ledger) : Holder → Option Tag
  | .handle _ => none
  | .costume n => l.costumes[n]?
  | .worn s n => l.sprites[s]?.bind (·[n]?)

def origin? (l : Ledger) : Holder → Option Nat
  | .handle n => l.handles[n]?
  | .costume n => (l.tag? (.costume n)).map Tag.origin
  | .worn s n => (l.tag? (.worn s n)).map Tag.origin

def offersTo (l : Ledger) (o : Nat) : List Image :=
  (l.offers.filter (·.1 = o)).map Prod.snd

def image? (l : Ledger) (o : Nat) : Option Image := l.births[o]?.join.or (l.offersTo o).head?

def after (l : Ledger) : Dressing → Ledger
  | .pendingHandle =>
    { l with births := l.births ++ [none], handles := l.handles ++ [l.births.length] }
  | .readyHandle i =>
    { l with births := l.births ++ [some i], handles := l.handles ++ [l.births.length] }
  | .keepHandle r => { l with handles := l.handles ++ (l.origin? r).toList }
  | .newCostume i =>
    { l with births := l.births ++ [some i], costumes := l.costumes ++ [⟨l.births.length, 0⟩] }
  | .pendingCostume =>
    { l with births := l.births ++ [none], costumes := l.costumes ++ [⟨l.births.length, 0⟩] }
  | .ofHandle r =>
    { l with costumes := l.costumes ++ ((l.origin? r).map fun o => ⟨o, 0⟩).toList }
  | .cloneCostume r => { l with costumes := l.costumes ++ (l.tag? r).toList }
  | .offset n x => { l with costumes := l.costumes.modify n fun t => { t with xOffset := x } }
  | .newSprite _ _ => { l with sprites := l.sprites ++ [[]] }
  | .addCostume s n => { l with sprites := l.sprites.modify s (· ++ l.costumes[n]?.toList) }
  | .cloneSprite n => { l with sprites := l.sprites ++ l.sprites[n]?.toList }
  | .resolve r i => { l with offers := l.offers ++ ((l.origin? r).map fun o => (o, i)).toList }

def run (ops : List Dressing) : Ledger := ops.foldl after {}

end Ledger

section Lists

theorem mem_append_toList {α : Type} {P : α → Prop} {xs : List α} {x : Option α}
    (hs : ∀ y ∈ xs, P y) (hx : ∀ y, x = some y → P y) : ∀ y ∈ xs ++ x.toList, P y := by
  intro y hy
  rcases List.mem_append.1 hy with hy | hy
  · exact hs y hy
  · exact hx y (Option.mem_toList.1 hy)

theorem mem_modify {α : Type} {P : α → Prop} {xs : List α} {n : Nat} {f : α → α}
    (hs : ∀ y ∈ xs, P y) (hf : ∀ y ∈ xs, P (f y)) : ∀ y ∈ xs.modify n f, P y := by
  intro y hy
  obtain ⟨k, hk⟩ := List.mem_iff_getElem?.1 hy
  rw [List.getElem?_modify] at hk
  obtain ⟨x, hx, rfl⟩ := Option.map_eq_some_iff.1 hk
  split
  · exact hf x (List.mem_of_getElem? hx)
  · exact hs x (List.mem_of_getElem? hx)

theorem map_modify {α β : Type} {f : α → α} {f' : β → β} {g : α → β}
    (h : ∀ a, g (f a) = f' (g a)) (xs : List α) (n : Nat) :
    (xs.map g).modify n f' = (xs.modify n f).map g := by
  apply List.ext_getElem?
  intro k
  simp only [List.getElem?_modify, List.getElem?_map]
  cases xs[k]? with
  | none => rfl
  | some a => by_cases hk : n = k <;> simp [hk, h]

theorem getElem?_append_of_some {α : Type} {xs : List α} {n : Nat} {x : α} (h : xs[n]? = some x)
    (ys : List α) : (xs ++ ys)[n]? = some x := by
  rw [List.getElem?_append_left (List.getElem?_eq_some_iff.1 h).1, h]

end Lists

namespace Ledger

/-- The ledger speaks only of births that took place. -/
structure Known (l : Ledger) : Prop where
  handles : ∀ o ∈ l.handles, o < l.births.length
  costumes : ∀ t ∈ l.costumes, t.origin < l.births.length
  sprites : ∀ s ∈ l.sprites, ∀ t ∈ s, t.origin < l.births.length
  offers : ∀ p ∈ l.offers, p.1 < l.births.length

variable {l : Ledger}

theorem Known.tag_lt (h : l.Known) {r : Holder} {t : Tag} (ht : l.tag? r = some t) :
    t.origin < l.births.length := by
  cases r with
  | handle n => cases ht
  | costume n => exact h.costumes t (List.mem_of_getElem? ht)
  | worn s n =>
    obtain ⟨p, hp, ht⟩ := Option.bind_eq_some_iff.1 ht
    exact h.sprites p (List.mem_of_getElem? hp) t (List.mem_of_getElem? ht)

theorem Known.origin_lt (h : l.Known) {r : Holder} {o : Nat} (ho : l.origin? r = some o) :
    o < l.births.length := by
  cases r with
  | handle n => exact h.handles o (List.mem_of_getElem? ho)
  | costume n =>
    obtain ⟨t, ht, rfl⟩ := Option.map_eq_some_iff.1 ho
    exact h.tag_lt ht
  | worn s n =>
    obtain ⟨t, ht, rfl⟩ := Option.map_eq_some_iff.1 ho
    exact h.tag_lt ht

/-- Nothing was offered for a birth before it takes place. -/
theorem Known.offersTo_length (h : l.Known) : l.offersTo l.births.length = [] := by
  simp only [offersTo, List.map_eq_nil_iff, List.filter_eq_nil_iff, decide_eq_true_eq]
  exact fun p hp => Nat.ne_of_lt (h.offers p hp)

def birth (l : Ledger) (b : Option Image) : Ledger := { l with births := l.births ++ [b] }

theorem Known.birth (h : l.Known) (b : Option Image) : (l.birth b).Known := by
  have hlater {o : Nat} (ho : o < l.births.length) : o < (l.births ++ [b]).length := by
    simp only [List.length_append, List.length_singleton]
    omega
  exact ⟨fun o ho => hlater (h.handles o ho), fun t ht => hlater (h.costumes t ht),
    fun s hs t ht => hlater (h.sprites s hs t ht), fun p hp => hlater (h.offers p hp)⟩

theorem length_lt_birth (l : Ledger) (b : Option Image) :
    l.births.length < (l.birth b).births.length := by
  simp [birth]

theorem Known.birth_handle (h : l.Known) (b : Option Image) :
    ({ l.birth b with handles := l.handles ++ [l.births.length] } : Ledger).Known := by
  refine { h.birth b with handles := mem_append_toList (x := some _) (h.birth b).handles ?_ }
  rintro _ ⟨⟩
  exact l.length_lt_birth b

theorem Known.birth_costume (h : l.Known) (b : Option Image) :
    ({ l.birth b with costumes := l.costumes ++ [⟨l.births.length, 0⟩] } : Ledger).Known := by
  refine { h.birth b with costumes := mem_append_toList (x := some _) (h.birth b).costumes ?_ }
  rintro _ ⟨⟩
  exact l.length_lt_birth b

theorem Known.after (h : l.Known) (op : Dressing) : (l.after op).Known := by
  cases op with
  | pendingHandle => exact h.birth_handle none
  | readyHandle i => exact h.birth_handle (some i)
  | keepHandle r => exact { h with handles := mem_append_toList h.handles fun _ => h.origin_lt }
  | newCostume i => exact h.birth_costume (some i)
  | pendingCostume => exact h.birth_costume none
  | ofHandle r =>
    refine { h with costumes := mem_append_toList h.costumes ?_ }
    rintro t ht
    obtain ⟨o, ho, rfl⟩ := Option.map_eq_some_iff.1 ht
    exact h.origin_lt ho
  | cloneCostume r => exact { h with costumes := mem_append_toList h.costumes fun _ => h.tag_lt }
  | offset n x => exact { h with costumes := mem_modify h.costumes h.costumes }
  | newSprite x y =>
    exact { h with sprites := mem_append_toList (x := some _) h.sprites (by simp) }
  | addCostume s n =>
    refine { h with sprites := mem_modify h.sprites fun p hp => ?_ }
    exact mem_append_toList (h.sprites p hp) fun t ht => h.costumes t (List.mem_of_getElem? ht)
  | cloneSprite n =>
    exact { h with
      sprites := mem_append_toList h.sprites fun p hp => h.sprites p (List.mem_of_getElem? hp) }
  | resolve r i =>
    refine { h with offers := mem_append_toList h.offers ?_ }
    rintro p hp
    obtain ⟨o, ho, rfl⟩ := Option.map_eq_some_iff.1 hp
    exact h.origin_lt ho

theorem image?_birth (h : l.Known) (b : Option Image) (o : Nat) :
    (l.birth b).image? o = if o = l.births.length then b else l.image? o := by
  have hoffers : (l.birth b).offersTo o = l.offersTo o := rfl
  have hbirths : (l.birth b).births = l.births ++ [b] := rfl
  split
  · next he =>
    subst he
    simp [image?, hbirths, hoffers, h.offersTo_length]
  · next he => grind [image?]

theorem image?_offer {r : Holder} {o : Nat} (ho : l.origin? r = some o) (i : Image) (k : Nat) :
    (l.after (.resolve r i)).image? k = if k = o then (l.image? o).or (some i) else l.image? k := by
  have hoffers : (l.after (.resolve r i)).offersTo k =
      l.offersTo k ++ if k = o then [i] else [] := by
    simp only [offersTo, after, ho, List.filter_append, List.map_append]
    by_cases hk : k = o
    · simp [hk]
    · simp [hk, Ne.symm hk]
  have hbirths : (l.after (.resolve r i)).births = l.births := rfl
  split
  · next hk =>
    subst hk
    simp [image?, hoffers, hbirths, List.head?_append]
  · next hk => simp [image?, hoffers, hbirths, hk]

/-- Only an offer for the same birth changes what is to be seen of it. -/
theorem image?_after (h : l.Known) {o : Nat} (ho : o < l.births.length) {op : Dressing}
    (hop : ∀ r i, op = .resolve r i → l.origin? r ≠ some o) :
    (l.after op).image? o = l.image? o := by
  have hborn (b : Option Image) : (l.birth b).image? o = l.image? o := by
    rw [image?_birth h, if_neg (Nat.ne_of_lt ho)]
  cases op with
  | pendingHandle => exact hborn none
  | readyHandle i => exact hborn (some i)
  | newCostume i => exact hborn (some i)
  | pendingCostume => exact hborn none
  | resolve r i =>
    cases hr : l.origin? r with
    | none => simp [after, hr]
    | some k =>
      have hk : o ≠ k := fun he => hop r i rfl (he ▸ hr)
      rw [image?_offer hr, if_neg hk]
  | _ => rfl

end Ledger

def Costume.tag (c : Costume) : Tag := ⟨c.image.index, c.xOffset⟩

/-- The ledger tells of each thing in the wardrobe what it is. -/
structure Wardrobe.Tracks (w : Wardrobe) (l : Ledger) : Prop where
  known : l.Known
  handles : l.handles = w.handles.map Handle.index
  costumes : l.costumes = w.costumes.map Costume.tag
  sprites : l.sprites = w.sprites.map fun s => s.costumes.map Costume.tag
  births : l.births.length = w.gallery.places.size
  holds : ∀ h, w.gallery.get? h = l.image? h.index

namespace Gallery

/-- The second gallery has one place more, with this in it. -/
structure Gains (g g' : Gallery) (b : Option Image) : Prop where
  size : g'.places.size = g.places.size + 1
  get? : ∀ h, g'.get? h = if h.index = g.places.size then b else g.get? h

theorem gains_push (g : Gallery) (b : Option Image) : g.Gains ⟨g.places.push b⟩ b := by
  refine ⟨Array.size_push _, fun h => ?_⟩
  by_cases hh : h.index = g.places.size
  · simp [Gallery.get?, hh]
  · simp [Gallery.get?, Array.getElem?_push, hh]

theorem gains_pending (g : Gallery) : g.Gains g.pending.2 none := gains_push g none

theorem gains_ready (g : Gallery) (i : Image) : g.Gains (g.ready i).2 (some i) := gains_push g _

theorem resolve_of_loaded {g : Gallery} {h : Handle} {j : Image} (hj : g.get? h = some j)
    (i : Image) : g.resolve h i = .error i := by
  simp [resolve, isLoaded, hj]

theorem resolve_of_pending {g : Gallery} {h : Handle} (hn : g.get? h = none) (i : Image) :
    ∃ g', g.resolve h i = .ok g' := by
  simp [resolve, isLoaded, hn]

theorem size_resolve {g g' : Gallery} {h : Handle} {i : Image} (hr : g.resolve h i = .ok g') :
    g'.places.size = g.places.size := by
  unfold resolve at hr
  split at hr
  · cases hr
  · cases hr
    simp

end Gallery

namespace Wardrobe

variable {w : Wardrobe} {l : Ledger}

theorem Tracks.tag? (h : w.Tracks l) (r : Holder) : l.tag? r = (w.costume? r).map Costume.tag := by
  cases r with
  | handle n => rfl
  | costume n => simp [Ledger.tag?, costume?, h.costumes]
  | worn s n =>
    simp only [Ledger.tag?, costume?, h.sprites, List.getElem?_map]
    cases w.sprites[s]? with
    | none => rfl
    | some p => simp

theorem Tracks.origin? (h : w.Tracks l) (r : Holder) :
    l.origin? r = (w.handle? r).map Handle.index := by
  cases r with
  | handle n => simp [Ledger.origin?, handle?, h.handles]
  | costume n => simp [Ledger.origin?, handle?, h.tag?, Costume.tag, Function.comp_def]
  | worn s n => simp [Ledger.origin?, handle?, h.tag?, Costume.tag, Function.comp_def]

theorem Tracks.birth (h : w.Tracks l) {g : Gallery} {b : Option Image}
    (hg : w.gallery.Gains g b) : ({ w with gallery := g } : Wardrobe).Tracks (l.birth b) := by
  refine { h with known := h.known.birth b, births := ?_, holds := fun k => ?_ }
  · simp [Ledger.birth, hg.size, h.births]
  · rw [hg.get?, Ledger.image?_birth h.known, h.births, h.holds]

theorem Tracks.birth_handle (h : w.Tracks l) {g : Gallery} {b : Option Image}
    (hg : w.gallery.Gains g b) :
    ({ w with gallery := g, handles := w.handles ++ [⟨w.gallery.places.size⟩] } : Wardrobe).Tracks
      { l.birth b with handles := l.handles ++ [l.births.length] } :=
  { h.birth hg with
    known := h.known.birth_handle b
    handles := by simp [h.handles, h.births] }

theorem Tracks.birth_costume (h : w.Tracks l) {g : Gallery} {b : Option Image}
    (hg : w.gallery.Gains g b) :
    ({ w with
        gallery := g
        costumes := w.costumes ++ [.ofHandle ⟨w.gallery.places.size⟩] } : Wardrobe).Tracks
      { l.birth b with costumes := l.costumes ++ [⟨l.births.length, 0⟩] } :=
  { h.birth hg with
    known := h.known.birth_costume b
    costumes := by simp [h.costumes, h.births, Costume.ofHandle, Costume.tag] }

theorem after_of_loaded {r : Holder} {m : Handle} {j : Image} (hr : w.handle? r = some m)
    (hj : w.gallery.get? m = some j) (i : Image) :
    w.offer r i = some (.error i) ∧ w.after (.resolve r i) = w := by
  have ho : w.offer r i = some (.error i) := by
    simp [offer, hr, Gallery.resolve_of_loaded hj]
  exact ⟨ho, by simp only [after, ho]; rfl⟩

theorem after_of_pending {r : Holder} {m : Handle} (hr : w.handle? r = some m)
    (hn : w.gallery.get? m = none) (i : Image) :
    ∃ g, w.gallery.resolve m i = .ok g ∧ w.offer r i = some (.ok g) ∧
      w.after (.resolve r i) = { w with gallery := g } := by
  obtain ⟨g, hg⟩ := Gallery.resolve_of_pending hn i
  have ho : w.offer r i = some (.ok g) := by simp [offer, hr, hg]
  exact ⟨g, hg, ho, by simp only [after, ho]; rfl⟩

theorem after_of_unknown {r : Holder} (hr : w.handle? r = none) (i : Image) :
    w.after (.resolve r i) = w := by
  simp [after, offer, hr]

theorem Tracks.index_lt (h : w.Tracks l) {r : Holder} {m : Handle} (hr : w.handle? r = some m) :
    m.index < w.gallery.places.size := by
  rw [← h.births]
  exact h.known.origin_lt (by rw [h.origin?, hr]; rfl)

/-- An offer fills the place that it is made for if it is the first one, and no other place. -/
theorem Tracks.after_offer (h : w.Tracks l) (r : Holder) (i : Image) :
    (w.after (.resolve r i)).Tracks (l.after (.resolve r i)) := by
  have hknown := h.known.after (.resolve r i)
  cases hr : w.handle? r with
  | none =>
    have ho : l.origin? r = none := by rw [h.origin?, hr]; rfl
    have hl : l.after (.resolve r i) = l := by simp [Ledger.after, ho]
    rwa [after_of_unknown hr, hl]
  | some m =>
    have ho : l.origin? r = some m.index := by rw [h.origin?, hr]; rfl
    have himage (k : Handle) : (l.after (.resolve r i)).image? k.index =
        if k = m then (w.gallery.get? m).or (some i) else w.gallery.get? k := by
      have hk : k.index = m.index ↔ k = m := by cases k; cases m; simp
      simp only [Ledger.image?_offer ho, h.holds, hk]
    cases hm : w.gallery.get? m with
    | some j =>
      rw [(after_of_loaded hr hm i).2]
      refine { h with known := hknown, holds := fun k => ?_ }
      rw [himage, hm]
      split
      · next hk => rw [hk, hm]; rfl
      · rfl
    | none =>
      obtain ⟨g, hg, -, hw⟩ := after_of_pending hr hm i
      rw [hw]
      refine { h with
        known := hknown
        births := h.births.trans (Gallery.size_resolve hg).symm
        holds := fun k => ?_ }
      rw [himage, hm]
      split
      · next hk => rw [hk, Gallery.get?_resolve_self (h.index_lt hr) hg]; rfl
      · next hk => exact Gallery.get?_resolve_of_ne hk hg

theorem Tracks.after (h : w.Tracks l) (op : Dressing) : (w.after op).Tracks (l.after op) := by
  have hknown := h.known.after op
  cases op with
  | pendingHandle => exact h.birth_handle w.gallery.gains_pending
  | readyHandle i => exact h.birth_handle (w.gallery.gains_ready i)
  | keepHandle r =>
    refine { h with
      known := hknown
      handles := by
        simp only [Ledger.after, Wardrobe.after, h.handles, h.origin?, List.map_append]
        cases w.handle? r <;> rfl }
  | newCostume i => exact h.birth_costume (w.gallery.gains_ready i)
  | pendingCostume => exact h.birth_costume w.gallery.gains_pending
  | ofHandle r =>
    refine { h with
      known := hknown
      costumes := by
        simp only [Ledger.after, Wardrobe.after, h.costumes, h.origin?, List.map_append]
        cases w.handle? r <;> rfl }
  | cloneCostume r =>
    refine { h with
      known := hknown
      costumes := by
        simp only [Ledger.after, Wardrobe.after, h.costumes, h.tag?, List.map_append]
        cases w.costume? r <;> rfl }
  | offset n x =>
    refine { h with
      known := hknown
      costumes := by
        simp only [Ledger.after, h.costumes]
        exact map_modify (f := fun c : Costume => c.withXOffset x) (g := Costume.tag)
          (fun _ => rfl) _ _ }
  | newSprite x y =>
    refine { h with
      known := hknown
      sprites := by simp [Ledger.after, Wardrobe.after, Sprite.place, h.sprites] }
  | addCostume s n =>
    refine { h with
      known := hknown
      sprites := by
        simp only [Ledger.after, h.sprites, h.costumes, List.getElem?_map]
        refine map_modify (fun p => ?_) _ _
        cases w.costumes[n]? with
        | none => simp
        | some c => simp [Sprite.addCostume] }
  | cloneSprite n =>
    refine { h with
      known := hknown
      sprites := by
        simp only [Ledger.after, Wardrobe.after, h.sprites, List.getElem?_map, List.map_append]
        cases w.sprites[n]? <;> rfl }
  | resolve r i => exact h.after_offer r i

theorem run_tracks (ops : List Dressing) : (run ops).Tracks (Ledger.run ops) := by
  suffices h : ∀ (w : Wardrobe) (l : Ledger), w.Tracks l →
      (ops.foldl Wardrobe.after w).Tracks (ops.foldl Ledger.after l) by
    refine h {} {} ⟨⟨?_, ?_, ?_, ?_⟩, rfl, rfl, rfl, rfl, fun k => ?_⟩
    · exact List.forall_mem_nil _
    · exact List.forall_mem_nil _
    · exact List.forall_mem_nil _
    · exact List.forall_mem_nil _
    · simp [Gallery.get?, Ledger.image?, Ledger.offersTo]
  induction ops with
  | nil => exact fun _ _ h => h
  | cons op ops ih => exact fun w l h => ih _ _ (h.after op)

theorem costumes_after {n : Nat} {c : Costume} (hc : w.costumes[n]? = some c) (op : Dressing) :
    (w.after op).costumes[n]? = some ((op.offsetFor (.costume n)).elim c c.withXOffset) := by
  cases op with
  | newCostume i => exact getElem?_append_of_some hc _
  | pendingCostume => exact getElem?_append_of_some hc _
  | ofHandle r => exact getElem?_append_of_some hc _
  | cloneCostume r => exact getElem?_append_of_some hc _
  | offset k x =>
    simp only [after, List.getElem?_modify, hc, Dressing.offsetFor, Holder.costume.injEq]
    by_cases hk : n = k
    · simp [hk]
    · simp [hk, Ne.symm hk]
  | _ => exact hc

theorem sprites_after {s : Nat} {p : Sprite} (hp : w.sprites[s]? = some p) (op : Dressing) :
    ∃ q more, (w.after op).sprites[s]? = some q ∧ q.costumes = p.costumes ++ more := by
  cases op with
  | newSprite x y => exact ⟨p, [], getElem?_append_of_some hp _, (List.append_nil _).symm⟩
  | cloneSprite n => exact ⟨p, [], getElem?_append_of_some hp _, (List.append_nil _).symm⟩
  | addCostume k n =>
    simp only [after, List.getElem?_modify, hp]
    by_cases hk : k = s
    · cases w.costumes[n]? with
      | none => exact ⟨p, [], by simp, (List.append_nil _).symm⟩
      | some c => exact ⟨p.addCostume c, [c], by simp [hk], rfl⟩
    · exact ⟨p, [], by simp [hk], (List.append_nil _).symm⟩
  | _ => exact ⟨p, [], hp, (List.append_nil _).symm⟩

/-- What a costume is, it stays, but for the offset that it is given itself. -/
theorem costume?_after {r : Holder} {c : Costume} (hc : w.costume? r = some c) (op : Dressing) :
    (w.after op).costume? r = some ((op.offsetFor r).elim c c.withXOffset) := by
  cases r with
  | handle n => cases hc
  | costume n => exact costumes_after hc op
  | worn s n =>
    obtain ⟨p, hp, hc⟩ := Option.bind_eq_some_iff.1 hc
    obtain ⟨q, more, hq, hmore⟩ := sprites_after hp op
    have ho : op.offsetFor (.worn s n) = none := by cases op <;> rfl
    simp only [costume?, hq, ho, Option.bind_some, hmore]
    exact getElem?_append_of_some hc more

theorem handle?_of_costume? {r : Holder} {c : Costume} (hc : w.costume? r = some c) :
    w.handle? r = some c.image := by
  cases r with
  | handle n => cases hc
  | costume n => simp [handle?, hc]
  | worn s n => simp [handle?, hc]

/-- A holder names the same place for ever. -/
theorem handle?_after {r : Holder} {m : Handle} (hr : w.handle? r = some m) (op : Dressing) :
    (w.after op).handle? r = some m := by
  have hworn {c : Costume} (hc : w.costume? r = some c) :
      (w.after op).handle? r = some c.image := by
    rw [handle?_of_costume? (costume?_after hc op)]
    cases op.offsetFor r <;> rfl
  cases r with
  | handle n =>
    cases op with
    | pendingHandle => exact getElem?_append_of_some hr _
    | readyHandle i => exact getElem?_append_of_some hr _
    | keepHandle r => exact getElem?_append_of_some hr _
    | _ => exact hr
  | costume n =>
    obtain ⟨c, hc, rfl⟩ := Option.map_eq_some_iff.1 hr
    exact hworn hc
  | worn s n =>
    obtain ⟨c, hc, rfl⟩ := Option.map_eq_some_iff.1 hr
    exact hworn hc

theorem handle?_foldl {r : Holder} {m : Handle} (hr : w.handle? r = some m)
    (ops : List Dressing) : (ops.foldl after w).handle? r = some m := by
  induction ops generalizing w with
  | nil => exact hr
  | cons op ops ih => exact ih (handle?_after hr op)

/-- The offset of a costume is the last one that it was given itself. -/
theorem offset?_foldl {r : Holder} {c : Costume} (hc : w.costume? r = some c)
    (ops : List Dressing) :
    (ops.foldl after w).offset? r =
      (ops.filterMap (Dressing.offsetFor r)).getLast?.or (some c.xOffset) := by
  induction ops generalizing w c with
  | nil => simp [offset?, hc]
  | cons op ops ih =>
    rw [List.foldl_cons, ih (costume?_after hc op), List.filterMap_cons]
    cases op.offsetFor r with
    | none => rfl
    | some x => simp [List.getLast?_cons, Costume.withXOffset]

/-- What a holder of the birth `o` sees, and what comes of images offered through it. -/
structure Sees (w : Wardrobe) (l : Ledger) (r : Holder) (o : Nat) : Prop where
  image : w.image? r = l.births[o]?.join.or (l.offersTo o).head?
  size : w.size? r =
    (l.births[o]?.join.or (l.offersTo o).head?).map fun i => (i.width, i.height)
  offset : w.offset? r = (l.tag? r).map Tag.xOffset
  accepted : w.image? r = none → ∀ i, ∃ g, w.offer r i = some (.ok g)
  rejected : w.image? r ≠ none → ∀ i, w.offer r i = some (.error i) ∧ w.after (.resolve r i) = w

theorem Tracks.handle_of_origin (h : w.Tracks l) {r : Holder} {o : Nat}
    (ho : l.origin? r = some o) : w.handle? r = some ⟨o⟩ := by
  rw [h.origin?] at ho
  obtain ⟨m, hm, rfl⟩ := Option.map_eq_some_iff.1 ho
  exact hm

theorem Tracks.image?_of_origin (h : w.Tracks l) {r : Holder} {o : Nat}
    (ho : l.origin? r = some o) : w.image? r = l.image? o := by
  rw [image?, h.handle_of_origin ho]
  exact h.holds ⟨o⟩

theorem Tracks.sees (h : w.Tracks l) {r : Holder} {o : Nat} (ho : l.origin? r = some o) :
    w.Sees l r o := by
  have hr := h.handle_of_origin ho
  have himage : w.image? r = w.gallery.get? ⟨o⟩ := by rw [image?, hr]; rfl
  refine ⟨h.image?_of_origin ho, ?_, ?_, ?_, ?_⟩
  · rw [size?, h.image?_of_origin ho]
    rfl
  · rw [offset?, h.tag?]
    cases w.costume? r <;> rfl
  · intro hn i
    obtain ⟨g, -, hg, -⟩ := after_of_pending hr (himage.symm.trans hn) i
    exact ⟨g, hg⟩
  · intro hs i
    obtain ⟨j, hj⟩ := Option.ne_none_iff_exists'.1 hs
    exact after_of_loaded hr (himage.symm.trans hj) i

theorem Tracks.origin?_after (h : w.Tracks l) {r : Holder} {o : Nat} (ho : l.origin? r = some o)
    (op : Dressing) : (l.after op).origin? r = some o := by
  rw [(h.after op).origin?, handle?_after (h.handle_of_origin ho)]
  rfl

theorem offset?_foldl_of_handle {r : Holder} {m : Handle} (hr : w.handle? r = some m)
    (ops : List Dressing) :
    (ops.foldl after w).offset? r =
      (ops.filterMap (Dressing.offsetFor r)).getLast?.or (w.offset? r) := by
  cases hc : w.costume? r with
  | some c => rw [offset?_foldl hc, offset?, hc]; rfl
  | none =>
    cases r with
    | handle n =>
      have hnone : ops.filterMap (Dressing.offsetFor (.handle n)) = [] :=
        List.filterMap_eq_nil_iff.2 fun op _ => by cases op <;> rfl
      rw [hnone]
      rfl
    | costume n => rw [handle?, hc] at hr; cases hr
    | worn s n => rw [handle?, hc] at hr; cases hr

theorem run_append (ops more : List Dressing) : run (ops ++ more) = more.foldl after (run ops) :=
  List.foldl_append

/-- Whatever is done with handles, costumes and sprites, those that share the birth of an image see
the image that it was born as or else the first one offered through any of them. All later offers
come back and change nothing, offers for another birth do not count, and a costume has the last
offset that it was given itself. -/
theorem run_sees (ops : List Dressing) :
    (∀ r, ((run ops).handle? r).isSome = ((Ledger.run ops).origin? r).isSome) ∧
      ∀ r o, (Ledger.run ops).origin? r = some o →
        (run ops).Sees (Ledger.run ops) r o ∧
          (∀ op, (∀ s i, op = .resolve s i → (Ledger.run ops).origin? s ≠ some o) →
            ((run ops).after op).image? r = (run ops).image? r) ∧
          ∀ more, (Ledger.run (ops ++ more)).origin? r = some o ∧
            (run (ops ++ more)).offset? r =
              (more.filterMap (Dressing.offsetFor r)).getLast?.or ((run ops).offset? r) := by
  have h := run_tracks ops
  refine ⟨fun r => by rw [h.origin?, Option.isSome_map], fun r o ho => ?_⟩
  have hr := h.handle_of_origin ho
  refine ⟨h.sees ho, fun op hop => ?_, fun more => ⟨?_, ?_⟩⟩
  · rw [(h.after op).image?_of_origin (h.origin?_after ho op), h.image?_of_origin ho]
    exact Ledger.image?_after h.known (h.known.origin_lt ho) hop
  · rw [(run_tracks (ops ++ more)).origin?, run_append, handle?_foldl hr]
    rfl
  · rw [run_append]
    exact offset?_foldl_of_handle hr more

theorem run_sees_cloned_sprite :
    let ops : List Dressing := [.pendingHandle, .ofHandle (.handle 0), .newSprite 0 0,
      .addCostume 0 0, .cloneSprite 0, .newCostume (.blank 2 2), .offset 0 1,
      .resolve (.worn 1 0) (.blank 3 1), .resolve (.handle 0) (.blank 5 5)]
    (Ledger.run ops).origin? (.worn 0 0) = some 0 ∧
      (run ops).image? (.worn 0 0) = some (.blank 3 1) ∧
      (run ops).size? (.costume 0) = some (3, 1) ∧
      (run ops).offset? (.worn 0 0) = some 0 ∧ (run ops).offset? (.costume 0) = some 1 ∧
      (run ops).offer (.worn 0 0) (.blank 7 7) = some (.error (.blank 7 7)) := by
  intro ops
  have hsprite := ((run_sees ops).2 (.worn 0 0) 0 rfl).1
  have hcostume := ((run_sees ops).2 (.costume 0) 0 rfl).1
  have himage : (run ops).image? (.worn 0 0) = some (.blank 3 1) := hsprite.image.trans rfl
  refine ⟨rfl, himage, hcostume.size.trans rfl, hsprite.offset.trans rfl,
    hcostume.offset.trans rfl, (hsprite.rejected ?_ _).1⟩
  rw [himage]
  exact Option.some_ne_none _

end Wardrobe

end Stagecraft
