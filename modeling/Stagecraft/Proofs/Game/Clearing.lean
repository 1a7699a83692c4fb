import Stagecraft.Proofs.Game.Compositing

/-!
What is left on a canvas once it is cleared over its bounds. The bounds are measured in single
precision, and a side that is rounded down keeps its last columns or rows. Main statement: a clear
canvas is blank, and so is what a game shows as long as all images of its children are on their
way, for exactly those sides of which none is rounded down (`clear_canvas_iff`).
-/

set_option autoImplicit false

namespace Stagecraft

namespace Image

theorem get?_fill {w h px py : Nat} (p : Pixel) (hx : px < w) (hy : py < h) :
    (fill w h p).get? px py = some p := by
  have hlt : py * w + px < w * h := index_lt hx hy
  simp [get?, fill, hx, hy, hlt]

theorem eq_blank {i : Image} {w h : Nat} (hw : i.width = w) (hh : i.height = h)
    (hpixel : ∀ px py, px < w → py < h → i.get? px py = some .transparent) : i = blank w h := by
  refine ext_get? hw hh fun px py hx hy => ?_
  rw [hw] at hx
  rw [hh] at hy
  rw [hpixel px py hx hy, blank, get?_fill _ hx hy]

end Image

namespace Canvas

/-- The bounds of a canvas with these sides hold all its pixels. -/
def Covered (w h : Nat) : Prop := w = 0 ∨ h = 0 ∨ w ≤ measured w ∧ h ≤ measured h

instance (w h : Nat) : Decidable (Covered w h) := inferInstanceAs (Decidable (_ ∨ _ ∨ _))

variable {w h : Nat}

theorem lt_measured (hc : Covered w h) {px py : Nat} (hx : px < w) (hy : py < h) :
    px < measured w ∧ py < measured h := by
  unfold Covered at hc
  omega

/-- If the bounds miss a pixel, they miss the one in the far corner. -/
theorem not_measured (hc : ¬Covered w h) :
    w - 1 < w ∧ h - 1 < h ∧ ¬(w - 1 < measured w ∧ h - 1 < measured h) := by
  unfold Covered at hc
  omega

theorem clear_eq_blank (hw : w < 2 ^ 32) (hh : h < 2 ^ 32) (hc : Covered w h) {c : Canvas}
    (hcw : c.width = w) (hch : c.height = h) : c.clear c.bounds = Image.blank w h := by
  subst hcw hch
  refine Image.eq_blank (clear_width c _) (clear_height c _) fun px py hx hy => ?_
  rw [get?_clear_bounds_measured hw hh, if_pos (lt_measured hc hx hy), Image.get?_eq_get hx hy,
    Option.map_some]

/-- A canvas full of one colour keeps it where the bounds do not reach. -/
theorem get?_clear_of_full (hw : w < 2 ^ 32) (hh : h < 2 ^ 32) {c : Canvas} {p : Pixel}
    (hfull : c = Image.fill w h p) {px py : Nat} (hx : px < w) (hy : py < h)
    (hout : ¬(px < measured w ∧ py < measured h)) : (c.clear c.bounds).get? px py = some p := by
  have hcw : c.width = w := by rw [hfull]; rfl
  have hch : c.height = h := by rw [hfull]; rfl
  rw [get?_clear_bounds_measured (hcw ▸ hw) (hch ▸ hh), hcw, hch, if_neg hout, hfull,
    Image.get?_fill p hx hy]

def ink : Pixel := ⟨1, 2, 3, 255⟩

theorem clear_fill_ne_blank (hw : w < 2 ^ 32) (hh : h < 2 ^ 32) (hc : ¬Covered w h) {c : Canvas}
    (hfull : c = Image.fill w h ink) : c.clear c.bounds ≠ Image.blank w h := by
  obtain ⟨hx, hy, hout⟩ := not_measured hc
  intro hblank
  have hkept := get?_clear_of_full hw hh hfull hx hy hout
  rw [hblank, Image.blank, Image.get?_fill _ hx hy] at hkept
  exact absurd hkept (by decide)

end Canvas

open Canvas

namespace Troupe

/-- Every child is a sprite that wears a costume whose image is on its way. -/
def Awaits (t : Troupe) (children : List MemberId) : Prop :=
  ∀ i ∈ children, ∃ s c, t.sprite? i = some s ∧ s.costume = .ok c ∧ t.gallery.get? c.image = none

variable {t : Troupe} {σ : Type} [Surface σ Event]

theorem each_awaited {children : List MemberId} (h : t.Awaits children) (a : σ) :
    ∃ said, Act.each (Actor.render : MemberId → Act Event RenderError (Troupe × σ) Unit)
      children (t, a) = ⟨.ok (), (t, a), said⟩ := by
  induction children with
  | nil => exact ⟨[], rfl⟩
  | cons i rest ih =>
    obtain ⟨s, c, hs, hc, hi⟩ := h i List.mem_cons_self
    obtain ⟨said, hrest⟩ := ih fun j hj => h j (List.mem_cons_of_mem _ hj)
    refine ⟨.log ⟨.trace, s!"costume {s.active} not loaded, skipping draw"⟩ :: said, ?_⟩
    rw [Act.each, Act.bind_apply, render_apply hs, Sprite.render_of_pending hc hi]
    simp only [Outcome.mapState, hrest, Outcome.after, List.singleton_append]

end Troupe

namespace Game

theorem render_of_awaits {g : Game MemberId Troupe Canvas} (h : g.world.Awaits g.children)
    {b : Canvas} (hb : g.surface.clear g.surface.bounds = b) :
    ∃ said, (render : Act Event GameError (Game MemberId Troupe Canvas) Unit) g =
      ⟨.ok (), { g with surface := b }, said⟩ := by
  obtain ⟨said, heach⟩ := Troupe.each_awaited h b
  have hclear := clear_apply g.surface
  rw [hb] at hclear
  exact ⟨said, render_apply hclear heach⟩

def empty (c : Canvas) : Game MemberId Troupe Canvas where
  surface := c
  tickRate := 24
  maxCatchUp := Metronome.defaultCap
  world := {}
  rate_pos := by decide

/-- Sides are numbers of 32 bits. Up to `2 ^ 24` none is rounded, and beyond that some are rounded
up. -/
theorem clear_canvas_iff {w h : Nat} (hw : w < 2 ^ 32) (hh : h < 2 ^ 32) :
    ((∀ c : Canvas, c.width = w → c.height = h → c.clear c.bounds = Image.blank w h) ↔
      Covered w h) ∧
    ((∀ g : Game MemberId Troupe Canvas, g.surface.width = w → g.surface.height = h →
        g.world.Awaits g.children →
        ∃ said, (render : Act Event GameError (Game MemberId Troupe Canvas) Unit) g =
          ⟨.ok (), { g with surface := Image.blank w h }, said⟩) ↔
      Covered w h) := by
  have hcanvas : (∀ c : Canvas, c.width = w → c.height = h → c.clear c.bounds = Image.blank w h) ↔
      Covered w h := by
    refine ⟨fun hall => ?_, fun hc c hcw hch => clear_eq_blank hw hh hc hcw hch⟩
    exact Decidable.byContradiction fun hc =>
      clear_fill_ne_blank hw hh hc rfl (hall (Image.fill w h ink) rfl rfl)
  refine ⟨hcanvas, fun hall => hcanvas.1 fun c hcw hch => ?_, fun hc g hgw hgh hawaits => ?_⟩
  · generalize hb : c.clear c.bounds = b
    obtain ⟨said, hblank⟩ := hall (empty c) hcw hch nofun
    obtain ⟨said', hclear⟩ := render_of_awaits (g := empty c) nofun hb
    rw [hclear] at hblank
    injection hblank with _ hstate _
    exact congrArg Game.surface hstate
  · exact render_of_awaits hawaits (clear_eq_blank hw hh hc hgw hgh)

/-- A side that is rounded up is cleared to its end. -/
theorem clear_canvas_iff_rounded_up :
    measured 16777219 = 16777220 ∧
      clear (Image.fill 16777219 1 ink) (bounds (Image.fill 16777219 1 ink)) =
        Image.blank 16777219 1 := by
  have hcovered : Covered 16777219 1 := by decide +kernel
  have hclear := (clear_canvas_iff (by decide) (by decide)).1.2 hcovered
  exact ⟨by decide +kernel, hclear (Image.fill 16777219 1 ink) rfl rfl⟩

def wide : Canvas := Image.fill 16777217 1 ink

/-- The last column stays, and a game without children shows it. -/
theorem wide_canvas_not_cleared :
    (wide.clear wide.bounds).get? 16777216 0 = some ink ∧
      ((render : Act Event GameError (Game MemberId Troupe Canvas) Unit)
        (empty wide)).state.surface.get? 16777216 0 = some ink := by
  have hout : ¬(16777216 < measured 16777217 ∧ 0 < measured 1) := by decide +kernel
  have hkept : (wide.clear wide.bounds).get? 16777216 0 = some ink :=
    get?_clear_of_full (by decide) (by decide) rfl (by decide) (by decide) hout
  generalize hb : wide.clear wide.bounds = b at hkept
  obtain ⟨said, hclear⟩ := render_of_awaits (g := empty wide) nofun hb
  rw [hclear]
  exact ⟨hkept, hkept⟩

end Game

end Stagecraft
