import Stagecraft.Proofs.Cast.Wearing
import Stagecraft.Proofs.Game.Enactment
import Stagecraft.Proofs.Raster.Drawing
import Stagecraft.Troupe.Basic

/-!
What a game of sprites shows. Main statement: a render pass clears the canvas and lays the costumes
over it image by image, and what comes of it is, for each pixel on its own, the pixels of the
costumes over it blended in the order of the children (`render_composites`).
-/

set_option autoImplicit false

namespace Stagecraft

namespace Pixel

/-- Of pixels that are invisible or opaque, the last opaque one is seen. -/
theorem foldl_blend_of_solid {ps : List Pixel} (h : ∀ p ∈ ps, p.alpha = 0 ∨ p.alpha = 255)
    (under : Pixel) :
    ps.foldl blend under = (ps.filter fun p => p.alpha = 255).getLast?.getD under := by
  induction ps generalizing under with
  | nil => rfl
  | cons p ps ih =>
    rw [List.foldl_cons, ih fun q hq => h q (List.mem_cons_of_mem _ hq)]
    rcases h p List.mem_cons_self with hp | hp
    · simp [hp]
    · simp [hp, List.getLast?_cons]

end Pixel

namespace Canvas

/-- The second canvas is the first one with layers laid over it, one after the other. -/
structure Laid (layers : List Layer) (c c' : Canvas) : Prop where
  width : c'.width = c.width
  height : c'.height = c.height
  pixel : ∀ px py, c'.get? px py =
    (c.get? px py).map fun under => layers.foldl (fun p l => l.cover px py p) under

namespace Laid

variable {c c' c'' : Canvas} {ls ms : List Layer}

theorem nil : Laid [] c c := ⟨rfl, rfl, fun px py => by cases c.get? px py <;> rfl⟩

theorem append (h : Laid ls c c') (h' : Laid ms c' c'') : Laid (ls ++ ms) c c'' := by
  refine ⟨h'.width.trans h.width, h'.height.trans h.height, fun px py => ?_⟩
  rw [h'.pixel, h.pixel, Option.map_map]
  simp only [Function.comp_def, List.foldl_append]

theorem measurable (h : Laid ls c c') (hc : c.Measurable) : c'.Measurable := by
  rw [Image.Measurable, h.width, h.height]
  exact hc

end Laid

theorem draw_laid {c : Canvas} (hc : c.Measurable) {i : Image} {p : Point}
    (hi : ∀ l ∈ Layer.ofPoint? i p, l.image.Measurable) :
    Laid (Layer.ofPoint? i p).toList c (c.draw i ⟨p, ⟨.ofNat i.width, .ofNat i.height⟩⟩) := by
  cases hl : Layer.ofPoint? i p with
  | none =>
    rw [draw_of_not_finite hl]
    exact .nil
  | some l =>
    have himage := (Layer.ofPoint?_eq_some hl).2.2
    refine ⟨draw_width .., draw_height .., get?_draw hc hl ?_⟩
    rw [← himage]
    exact hi l hl

/-- What layers come to at a place: the pixels over it, blended onto nothing in their order. -/
def composite (layers : List Layer) (px py : Nat) : Pixel :=
  (layers.filterMap (·.pixel? px py)).foldl Pixel.blend .transparent

theorem composite_eq (layers : List Layer) (px py : Nat) :
    composite layers px py = layers.foldl (fun p l => l.cover px py p) .transparent := by
  rw [composite, List.foldl_filterMap]
  congr
  funext p l
  rw [Layer.cover]
  cases l.pixel? px py <;> rfl

theorem Laid.get?_eq {layers : List Layer} {c c' : Canvas} (hc : c.Measurable)
    (h : Laid layers (c.clear c.bounds) c') {px py : Nat} (hx : px < c.width) (hy : py < c.height) :
    c'.get? px py = some (composite layers px py) := by
  rw [h.pixel, get?_clear_bounds hc, Image.get?_eq_get hx hy, composite_eq]
  rfl

theorem drawAct_apply {ν ε : Type} (i : Image) (dest : Rect) (c : Canvas) :
    (Surface.drawAct i dest : Act ν ε Canvas Unit) c = ⟨.ok (), c.draw i dest, []⟩ := rfl

end Canvas

open Canvas

namespace Sprite

/-- The worn costume where it goes, with its corner rounded to whole pixels; none if its image is
still on its way, or if the place is not finite. -/
def layer? (s : Sprite) (g : Gallery) : Option Layer := do
  let c ← s.costumes[s.active]?
  let i ← g.get? c.image
  Layer.ofPoint? i ⟨s.x + (480 - c.xOffset) / 2, 180 - s.y⟩

variable {ν : Type} {s : Sprite} {g : Gallery}

theorem getElem?_of_costume {c : Costume} (h : s.costume = .ok c) :
    s.costumes[s.active]? = some c := by
  unfold costume at h
  split at h
  · next hc => rw [hc, Except.ok.inj h]
  · split at h <;> cases h

theorem layer?_of_costume {c : Costume} (h : s.costume = .ok c) :
    s.layer? g = (g.get? c.image).bind
      (Layer.ofPoint? · ⟨s.x + (480 - c.xOffset) / 2, 180 - s.y⟩) := by
  rw [layer?, getElem?_of_costume h]
  rfl

theorem render_laid {c : Costume} (h : s.costume = .ok c) {a : Canvas} (ha : a.Measurable)
    (hl : ∀ l ∈ s.layer? g, l.image.Measurable) :
    ∃ b said, (s.render g : Act ν RenderError Canvas Unit) a = ⟨.ok (), b, said⟩ ∧
      Laid (s.layer? g).toList a b := by
  rw [layer?_of_costume h] at hl ⊢
  cases hi : g.get? c.image with
  | none => exact ⟨a, _, render_of_pending h hi a, .nil⟩
  | some i =>
    rw [hi] at hl
    refine ⟨_, [], ?_, draw_laid ha hl⟩
    rw [render_of_loaded h hi, drawAct_apply]

theorem costume_of_render {a : Canvas}
    (h : ((s.render g : Act ν RenderError Canvas Unit) a).result = .ok ()) :
    ∃ c, s.costume = .ok c := by
  cases hc : s.costume with
  | error e =>
    rw [render, hc] at h
    cases h
  | ok c => exact ⟨c, rfl⟩

end Sprite

namespace Troupe

def sprite? (t : Troupe) (i : MemberId) : Option Sprite :=
  match t.get? i with
  | some (.sprite s) => some s
  | some (.bouncer b) => some b.sprite
  | _ => none

def layers (t : Troupe) (children : List MemberId) : List Layer :=
  children.filterMap fun i => (t.sprite? i).bind fun s => s.layer? t.gallery

def Dressed (t : Troupe) (children : List MemberId) : Prop :=
  ∀ i ∈ children, ∃ s c, t.sprite? i = some s ∧ s.costume = .ok c

variable {t : Troupe} {σ : Type} [Surface σ Event]

theorem render_apply {i : MemberId} {s : Sprite} (h : t.sprite? i = some s) (a : σ) :
    (Actor.render i : Act Event RenderError (Troupe × σ) Unit) (t, a) =
      ((s.render t.gallery : Act Event RenderError σ Unit) a).mapState fun b => (t, b) := by
  unfold sprite? at h
  split at h <;> cases h <;>
    simp [Actor.render, Act.bind_apply, Act.zoom_apply, Member.render, *]

theorem layers_cons {i : MemberId} {s : Sprite} (h : t.sprite? i = some s)
    (rest : List MemberId) :
    t.layers (i :: rest) = (s.layer? t.gallery).toList ++ t.layers rest := by
  rw [layers, List.filterMap_cons, h, Option.bind_some]
  cases s.layer? t.gallery <;> rfl

theorem each_laid {children : List MemberId} (hd : t.Dressed children)
    (hl : ∀ l ∈ t.layers children, l.image.Measurable) {a : Canvas} (ha : a.Measurable) :
    ∃ b said, Act.each (Actor.render : MemberId → Act Event RenderError (Troupe × Canvas) Unit)
        children (t, a) = ⟨.ok (), (t, b), said⟩ ∧
      Laid (t.layers children) a b := by
  induction children generalizing a with
  | nil => exact ⟨a, [], rfl, .nil⟩
  | cons i rest ih =>
    obtain ⟨s, c, hs, hc⟩ := hd i List.mem_cons_self
    rw [layers_cons hs] at hl ⊢
    obtain ⟨b, said, hb, hlaid⟩ := Sprite.render_laid (ν := Event) hc ha
      fun l hmem => hl l (List.mem_append_left _ (Option.mem_toList.2 hmem))
    -- drawing keeps the sides, so the others find a canvas that can be measured as well
    obtain ⟨b', said', hb', hlaid'⟩ := ih (fun j hj => hd j (List.mem_cons_of_mem _ hj))
      (fun l hmem => hl l (List.mem_append_right _ hmem)) (hlaid.measurable ha)
    refine ⟨b', said ++ said', ?_, hlaid.append hlaid'⟩
    rw [Act.each, Act.bind_apply, render_apply hs, hb]
    simp only [Outcome.mapState, hb', Outcome.after]

theorem dressed_of_each {children : List MemberId}
    (hs : ∀ i ∈ children, (t.sprite? i).isSome = true) {a : Canvas}
    (h : (Act.each (Actor.render : MemberId → Act Event RenderError (Troupe × Canvas) Unit)
      children (t, a)).result = .ok ()) : t.Dressed children := by
  induction children generalizing a with
  | nil => nofun
  | cons i rest ih =>
    obtain ⟨s, hi⟩ := Option.isSome_iff_exists.1 (hs i List.mem_cons_self)
    rw [Act.each, Act.bind_apply, render_apply hi, Outcome.mapState_result] at h
    cases hr : ((s.render t.gallery : Act Event RenderError Canvas Unit) a).result with
    | error x =>
      rw [hr] at h
      cases h
    | ok _ =>
      obtain ⟨c, hc⟩ := Sprite.costume_of_render hr
      rw [hr] at h
      have hrest := ih (fun j hj => hs j (List.mem_cons_of_mem _ hj)) h
      intro j hj
      rcases List.mem_cons.1 hj with rfl | hj
      · exact ⟨s, c, hi, hc⟩
      · exact hrest j hj

end Troupe

namespace Game

def layers (g : Game MemberId Troupe Canvas) : List Layer := g.world.layers g.children

theorem clear_apply (c : Canvas) :
    (Surface.clear (Surface.bounds Event c) c : Canvas × List Event) = (c.clear c.bounds, []) := rfl

theorem render_shows {g : Game MemberId Troupe Canvas} (hc : g.surface.Measurable)
    (hd : g.world.Dressed g.children) (hl : ∀ l ∈ g.layers, l.image.Measurable) :
    ∃ b said, (render : Act Event GameError (Game MemberId Troupe Canvas) Unit) g =
        ⟨.ok (), { g with surface := b }, said⟩ ∧
      b.width = g.surface.width ∧ b.height = g.surface.height ∧
      ∀ px py, px < b.width → py < b.height →
        b.get? px py = some (composite g.layers px py) := by
  have hclear : (g.surface.clear g.surface.bounds).Measurable := by
    rw [Image.Measurable, clear_width, clear_height]
    exact hc
  obtain ⟨b, said, hb, hlaid⟩ := Troupe.each_laid hd hl hclear
  have hwidth : b.width = g.surface.width := hlaid.width.trans (clear_width _ _)
  have hheight : b.height = g.surface.height := hlaid.height.trans (clear_height _ _)
  refine ⟨b, _, render_apply (clear_apply g.surface) hb, hwidth, hheight, ?_⟩
  intro px py hx hy
  rw [hwidth] at hx
  rw [hheight] at hy
  exact hlaid.get?_eq hc hx hy

theorem dressed_of_render {g : Game MemberId Troupe Canvas}
    (hs : ∀ i ∈ g.children, (g.world.sprite? i).isSome = true)
    (h : ((render : Act Event GameError (Game MemberId Troupe Canvas) Unit) g).result = .ok ()) :
    g.world.Dressed g.children := by
  rcases he : Act.each (Actor.render : MemberId → Act Event RenderError (Troupe × Canvas) Unit)
    g.children (g.world, g.surface.clear g.surface.bounds) with ⟨x | _, q, said⟩
  · rw [render_apply (clear_apply g.surface) he] at h
    cases h
  · exact Troupe.dressed_of_each hs (by rw [he])

structure Composited (g : Game MemberId Troupe Canvas) (shown : Canvas) : Prop where
  sides : shown.width = g.surface.width ∧ shown.height = g.surface.height
  pixel : ∀ px py, px < shown.width → py < shown.height →
    shown.get? px py = some (composite g.layers px py)
  /-- What was on the canvas before makes no difference. -/
  fresh : ∀ c : Canvas, c.width = g.surface.width → c.height = g.surface.height →
    let o := (render : Act Event GameError _ Unit) { g with surface := c }
    o.result = .ok () ∧ o.state.surface = shown
  /-- Where nothing is half transparent, the last opaque pixel is seen. -/
  solid : (∀ l ∈ g.layers, ∀ p ∈ l.image.pixels, p.alpha = 0 ∨ p.alpha = 255) →
    ∀ px py, px < shown.width → py < shown.height →
      shown.get? px py = some (((g.layers.filterMap (·.pixel? px py)).filter
        fun p => p.alpha = 255).getLast?.getD .transparent)

/-- For every canvas and all images that single precision can measure. -/
theorem render_composites {g : Game MemberId Troupe Canvas} (hc : g.surface.Measurable)
    (hs : ∀ i ∈ g.children, (g.world.sprite? i).isSome = true)
    (hl : ∀ l ∈ g.layers, l.image.Measurable)
    (h : ((render : Act Event GameError (Game MemberId Troupe Canvas) Unit) g).result = .ok ()) :
    Composited g
      ((render : Act Event GameError (Game MemberId Troupe Canvas) Unit) g).state.surface := by
  have hd := dressed_of_render hs h
  obtain ⟨b, said, hb, hwidth, hheight, hpixel⟩ := render_shows hc hd hl
  rw [hb]
  refine ⟨⟨hwidth, hheight⟩, hpixel, ?_, ?_⟩
  · intro c hcw hch
    have hc' : c.Measurable := by
      rw [Image.Measurable, hcw, hch]
      exact hc
    obtain ⟨b', said', hb', hwidth', hheight', hpixel'⟩ :=
      render_shows (g := { g with surface := c }) hc' hd hl
    have hw : b'.width = b.width := (hwidth'.trans hcw).trans hwidth.symm
    have hh : b'.height = b.height := (hheight'.trans hch).trans hheight.symm
    have hsame : b' = b := by
      refine Image.ext_get? hw hh fun px py hx hy => ?_
      rw [hpixel' px py hx hy, hpixel px py (hw ▸ hx) (hh ▸ hy)]
      rfl
    simp only [hb', hsame, and_self]
  · intro hsolid px py hx hy
    have hps : ∀ p ∈ g.layers.filterMap (·.pixel? px py), p.alpha = 0 ∨ p.alpha = 255 := by
      intro p hp
      obtain ⟨l, hmem, hpl⟩ := List.mem_filterMap.1 hp
      exact hsolid l hmem p (Layer.mem_pixels hpl)
    rw [hpixel px py hx hy, composite, Pixel.foldl_blend_of_solid hps]

/-- Four sprites on a canvas that something was drawn on: one over its corner, one whose image is
on its way, one between two pixels, and one that is nowhere. -/
def tableau : Game MemberId Troupe Canvas where
  surface := .fill 3 2 ⟨9, 9, 9, 9⟩
  tickRate := 30
  maxCatchUp := Metronome.defaultCap
  children := [⟨0⟩, ⟨1⟩, ⟨2⟩, ⟨3⟩]
  world := {
    members := #[.sprite { x := -241, y := 181, costumes := [⟨⟨0⟩, 0⟩] },
      .sprite { costumes := [⟨⟨1⟩, 0⟩] },
      .sprite { x := -(479 / 2), y := 180, costumes := [⟨⟨1⟩, 0⟩, ⟨⟨2⟩, 0⟩], active := 1 },
      .sprite { x := .nan, costumes := [⟨⟨0⟩, 0⟩] }]
    gallery := ⟨#[some (.square 3 ⟨0, 200, 0, 255⟩), none, some (.square 1 ⟨0, 0, 200, 255⟩)]⟩ }
  rate_pos := by decide

theorem render_composites_tableau :
    let o := (render : Act Event GameError _ Unit) tableau
    o.result = .ok () ∧ tableau.layers.length = 2 ∧ Composited tableau o.state.surface := by
  intro o
  have h : o.result = .ok () := Outcome.result_eq_ok (by decide +kernel)
  exact ⟨h, by decide +kernel,
    render_composites (by decide) (by decide +kernel) (by decide +kernel) h⟩

end Game

end Stagecraft
