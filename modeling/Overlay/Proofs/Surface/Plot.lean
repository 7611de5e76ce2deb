import Overlay.Proofs.Surface
import Overlay.Proofs.Surface.Encoded
import Overlay.Proofs.Surface.Memory
import Overlay.Proofs.Window.Blit

/-!
This module contains plots on each kind of surface. One plot after another leaves the same surface, to the
last byte, as a single plot in which the later colours win. To present a buffer that holds nothing but the
encodings of colours is a plot too.
-/

namespace Overlay

open Readable

namespace Canvas

def overlay (later earlier : Nat → Nat → Option Color) (x y : Nat) : Option Color :=
  (later x y).or (earlier x y)

def within (areas : List Rect) (rule : Nat → Nat → Option Color) (x y : Nat) : Option Color :=
  if ∃ area ∈ areas, area.Covers x y then rule x y else none

theorem within_nil (rule : Nat → Nat → Option Color) (x y : Nat) : within [] rule x y = none := by
  rw [within, if_neg]
  rintro ⟨_, ⟨⟩, _⟩

theorem within_singleton (area : Rect) (rule : Nat → Nat → Option Color) (x y : Nat) :
    within [area] rule x y = if area.Covers x y then rule x y else none := by
  simp only [within, List.mem_singleton, exists_eq_left]

theorem within_congr {areas areas' : List Rect} {x y : Nat}
    (same : (∃ area ∈ areas, area.Covers x y) ↔ ∃ area ∈ areas', area.Covers x y)
    (rule : Nat → Nat → Option Color) : within areas rule x y = within areas' rule x y := by
  simp only [within, same]

theorem overlay_within (areas areas' : List Rect) (rule : Nat → Nat → Option Color) :
    overlay (within areas' rule) (within areas rule) = within (areas ++ areas') rule := by
  funext x y
  simp only [overlay, within, List.mem_append, or_and_right, exists_or]
  by_cases covered : ∃ area ∈ areas, area.Covers x y
  . by_cases covered' : ∃ area ∈ areas', area.Covers x y
    . rw [if_pos covered, if_pos covered', if_pos (.inl covered), Option.or_self]
    . rw [if_pos covered, if_neg covered', if_pos (.inl covered), Option.none_or]
  . by_cases covered' : ∃ area ∈ areas', area.Covers x y
    . rw [if_neg covered, if_pos covered', if_pos (.inr covered'), Option.or_none]
    . rw [if_neg covered, if_neg covered', if_neg (not_or.mpr ⟨covered, covered'⟩)]
      rfl

variable {σ τ : Type} [Canvas σ] [Canvas τ]

theorem Related.plotAll {R : σ → τ → Prop} (related : Related R) {s : σ} {t : τ} (h : R s t)
    (written : ∀ s t x y color, R s t → R (writePixel s x y color) (writePixel t x y color))
    (rule : Nat → Nat → Option Color) : R (plotAll s rule) (plotAll t rule) := by
  unfold Canvas.plotAll
  rw [related.width h, related.height h]
  apply Loop.relate
  . exact h
  . intro y _ s t h
    apply Loop.relate
    . exact h
    . intro x _ s t h
      cases rule x y with
      | none => exact h
      | some color => exact written s t x y color h

theorem Kept.plotAll {P : σ → Prop} (kept : Kept P) {s : σ} (hs : P s)
    (rule : Nat → Nat → Option Color) : P (plotAll s rule) :=
  ((Kept.related P).plotAll ⟨rfl, hs⟩ kept.written rule).2

end Canvas

open Canvas (plotAll overlay within)

variable {rule rule' : Nat → Nat → Option Color}

namespace FrameBuffer

theorem plotAll_plotAll (fb : FrameBuffer) (rule rule' : Nat → Nat → Option Color) :
    plotAll (plotAll fb rule) rule' = plotAll fb (overlay rule' rule) := by
  have first := encoded_plotAll fb rule
  have second := encoded_plotAll (plotAll fb rule) rule'
  exact (first.trans second).unique (encoded_plotAll fb (overlay rule' rule))

end FrameBuffer

namespace Screen

theorem toBuffer_plotAll (screen : Screen) (rule : Nat → Nat → Option Color) :
    (plotAll screen rule).toBuffer = plotAll screen.toBuffer rule := by
  apply related_toBuffer.plotAll
  . rfl
  . rintro screen _ x y color rfl
    exact toBuffer_writePixel screen x y color

theorem plotAll_plotAll (screen : Screen) (rule rule' : Nat → Nat → Option Color) :
    plotAll (plotAll screen rule) rule' = plotAll screen (overlay rule' rule) := by
  apply toBuffer_inj
  rw [toBuffer_plotAll, toBuffer_plotAll, toBuffer_plotAll, FrameBuffer.plotAll_plotAll]

end Screen

namespace Raster

theorem eq_of_painted {raster a b : Raster} {φ : Picture} (ha : Painted φ raster a)
    (hb : Painted φ raster b) : a = b := by
  have width : b.width = a.width := hb.width.trans ha.width.symm
  have height : b.height = a.height := hb.height.trans ha.height.symm
  have format : b.format = a.format := hb.format.trans ha.format.symm
  obtain ⟨size_a, width_le, height_le⟩ := ha.intact
  obtain ⟨size_b, _⟩ := hb.intact
  have cells : b.cells = a.cells := by
    rw [width, height] at size_b
    apply Grid.eq_of_points size_b size_a (Nat.le_trans width_le (by decide))
      (Nat.le_trans height_le (by decide))
    intro p inside
    have seen (raster : Raster) (intact : Intact raster) (same_width : raster.width = a.width)
        (same_height : raster.height = a.height) :
        Readable.pixel? raster p = raster.cells[p.y.toNat * a.width + p.x.toNat]? := by
      show raster.pixel? p = _
      rw [pixel?, if_pos, same_width]
      rw [(full_of_intact intact).contains_bounds, same_width, same_height]
      exact inside
    rw [← seen b hb.intact width height, ← seen a ha.intact rfl rfl, hb.pixel, ha.pixel]
  cases a
  cases b
  simp_all

theorem plotAll_plotAll {raster : Raster} (intact : Intact raster) (rule rule' : Nat → Nat → Option Color) :
    plotAll (plotAll raster rule) rule' = plotAll raster (overlay rule' rule) := by
  have first := Canvas.painted_plotAll intact rule
  have second := Canvas.painted_plotAll first.intact rule'
  exact eq_of_painted (first.trans second) (Canvas.painted_plotAll intact (overlay rule' rule))

end Raster

namespace Window

variable {w : Window}

theorem related_shadow : Canvas.Related fun (w : Window) fb => w.shadow = fb where
  width same := congrArg Canvas.width same
  height same := congrArg Canvas.height same

theorem shadow_plotAll (w : Window) (rule : Nat → Nat → Option Color) :
    (plotAll w rule).shadow = plotAll w.shadow rule := by
  apply related_shadow.plotAll
  . rfl
  . rintro w _ x y color rfl
    exact shadow_writePixel w x y color

theorem kept_key (key : Option Color) : Canvas.Kept fun w : Window => w.key = key := by
  intro w x y color same
  exact (key_writePixel w x y color).trans same

theorem key_plotAll (w : Window) (rule : Nat → Nat → Option Color) : (plotAll w rule).key = w.key :=
  (kept_key w.key).plotAll rfl rule

theorem eq_of_pixels {a b : Window} (shadow : a.shadow = b.shadow) (key : a.key = b.key)
    (pixel : ∀ p, b.bounds.contains p = true → a.pixel? p = b.pixel? p) : a = b := by
  have width_le : b.width ≤ 8192 := b.shadow.valid.width_le
  have height_le : b.height ≤ 8192 := b.shadow.valid.height_le
  have width : a.width = b.width := congrArg (·.layout.width) shadow
  have bounds : a.bounds = b.bounds := congrArg (fun fb : FrameBuffer => Rect.ofSize fb.layout.size) shadow
  have pixels : a.pixels = b.pixels := by
    have size_a : a.pixels.size = b.width * b.height := by
      rw [a.size_pixels, shadow]
      rfl
    apply Grid.eq_of_points size_a b.size_pixels (by omega) (by omega)
    intro p inside
    have seen : b.bounds.contains p = true := contains_bounds.mpr inside
    have same := pixel p seen
    rw [pixel?, pixel?, bounds, if_pos seen, if_pos seen, index, index, width] at same
    exact same
  cases a
  cases b
  simp_all

theorem plotAll_plotAll (w : Window) (rule rule' : Nat → Nat → Option Color) :
    plotAll (plotAll w rule) rule' = plotAll w (overlay rule' rule) := by
  have first := Canvas.painted_plotAll (s := w) trivial rule
  have second := Canvas.painted_plotAll first.intact rule'
  have both := Canvas.painted_plotAll (s := w) trivial (overlay rule' rule)
  apply eq_of_pixels
  . rw [shadow_plotAll, shadow_plotAll, shadow_plotAll, FrameBuffer.plotAll_plotAll]
  . rw [key_plotAll, key_plotAll, key_plotAll]
  . intro p _
    exact ((first.trans second).pixel p).trans (both.pixel p).symm

end Window

class PlottedCanvas (σ : Type) [Canvas σ] [LawfulCanvas σ] : Prop where
  plotAll_plotAll : ∀ (s : σ) (rule rule' : Nat → Nat → Option Color), Intact s →
    plotAll (plotAll s rule) rule' = plotAll s (overlay rule' rule)

instance : PlottedCanvas FrameBuffer where
  plotAll_plotAll fb rule rule' _ := fb.plotAll_plotAll rule rule'

instance : PlottedCanvas Screen where
  plotAll_plotAll screen rule rule' _ := screen.plotAll_plotAll rule rule'

instance : PlottedCanvas Raster where
  plotAll_plotAll _ rule rule' intact := Raster.plotAll_plotAll intact rule rule'

instance : PlottedCanvas Window where
  plotAll_plotAll w rule rule' _ := w.plotAll_plotAll rule rule'

theorem Canvas.render_render {σ : Type} [Canvas σ] [LawfulCanvas σ] [PlottedCanvas σ] {s : σ}
    (hs : Intact s) (φ ψ : Picture) : render (render s φ) ψ = render s fun p => (ψ p).or (φ p) :=
  PlottedCanvas.plotAll_plotAll s _ _ hs

namespace FrameBuffer

/-- Whether a buffer may be the shadow of a window: it holds the encodings of colours and nothing else. -/
def IsShadow (fb : FrameBuffer) : Prop := ∃ w : Window, w.InSync ∧ w.shadow = fb

theorem IsShadow.plotAll {fb : FrameBuffer} (shadow : fb.IsShadow) (rule : Nat → Nat → Option Color) :
    (plotAll fb rule).IsShadow := by
  obtain ⟨w, sync, rfl⟩ := shadow
  exact ⟨Canvas.plotAll w rule, Window.kept_inSync.plotAll sync rule, Window.shadow_plotAll w rule⟩

theorem isShadow_packed {width height : Nat} {format : PixelFormat} {fb : FrameBuffer}
    (made : ofLayout? (.packed width height format) = .ok fb) : fb.IsShadow := by
  unfold ofLayout? at made
  split at made
  . next valid =>
    cases made
    have black : Window.black? width height format = .ok _ := dif_pos valid
    exact ⟨_, Window.inSync_black? black, rfl⟩
  . cases made

def color? (fb : FrameBuffer) (x y : Nat) : Option Color := fb.pixel? ⟨.clamp x, .clamp y⟩

theorem copyTo_eq_plotAll {σ : Type} [Canvas σ] [LawfulCanvas σ] {sink : σ} (hs : Intact sink)
    {fb : FrameBuffer} (shadow : fb.IsShadow) (area : Rect) :
    fb.copyTo sink area.pos area = plotAll sink (within [area] fb.color?) := by
  obtain ⟨w, sync, rfl⟩ := shadow
  apply Window.copyTo_shadow hs sync
  intro x y hx hy u v hu hv
  have width_le : Canvas.width sink ≤ 8192 := LawfulCanvas.width_le sink hs
  have height_le : Canvas.height sink ≤ 8192 := LawfulCanvas.height_le sink hs
  obtain rfl : u = x := by omega
  obtain rfl : v = y := by omega
  have x_val : (Coord.clamp x).val = x := Coord.val_clamp_of_fits (by omega)
  have y_val : (Coord.clamp y).val = y := Coord.val_clamp_of_fits (by omega)
  have inside : w.bounds.contains ⟨.clamp x, .clamp y⟩ = true ↔ (Rect.ofSize w.size).Covers x y := by
    rw [Window.bounds, Rect.contains_ofSize, x_val, y_val]
  rw [Canvas.within_singleton, color?, ← Window.pixel?_eq_shadow sync, Window.pixel?, Coord.toNat, x_val,
    Coord.toNat, y_val]
  simp only [inside]
  by_cases covered : area.Covers x y
  . simp only [covered, true_and, if_true]
  . simp only [covered, false_and, if_false]

theorem overlay_within_plotAll (fb : FrameBuffer) (areas areas' : List Rect)
    (rule : Nat → Nat → Option Color) {x y : Nat} (hx : x < fb.layout.width) (hy : y < fb.layout.height) :
    let fb' := plotAll fb (within areas' rule)
    overlay (within areas' fb'.color?) (within areas fb.color?) x y
      =
    within (areas ++ areas') fb'.color? x y := by
  intro fb'
  have width_le : fb.layout.width ≤ 8192 := fb.valid.width_le
  have height_le : fb.layout.height ≤ 8192 := fb.valid.height_le
  have painted : Painted (fun p => within areas' rule p.x.toNat p.y.toNat) fb fb' :=
    Canvas.painted_plotAll trivial _
  have pixel : fb'.color? x y = (fb.color? x y).map fun old => (within areas' rule x y).getD old := by
    have x_val : (Coord.clamp x).toNat = x := by
      rw [Coord.toNat, Coord.val_clamp_of_fits (by omega), Int.toNat_natCast]
    have y_val : (Coord.clamp y).toNat = y := by
      rw [Coord.toNat, Coord.val_clamp_of_fits (by omega), Int.toNat_natCast]
    have pixel := painted.pixel ⟨.clamp x, .clamp y⟩
    rw [x_val, y_val] at pixel
    exact pixel
  have seen : fb.color? x y = some (fb.layout.format.decodeAt fb.data (fb.layout.offset x y)) :=
    pixel?_of_lt hx hy
  rw [← Canvas.overlay_within, overlay, overlay]
  by_cases covered' : ∃ area ∈ areas', area.Covers x y
  . simp only [within, if_pos covered', pixel, seen, Option.map_some, Option.some_or]
  . simp only [within, if_neg covered', pixel, seen, Option.map_some, Option.getD_none]

end FrameBuffer

theorem Windows.modify_congr {windows : Windows} {id : WindowId} {f g : Window → Window}
    (same : ∀ w, windows[id]? = some w → f w = g w) : windows.modify id f = windows.modify id g := by
  apply Array.ext_getElem?
  intro i
  rw [Array.getElem?_modify, Array.getElem?_modify]
  split
  . next hit =>
    subst hit
    cases found : windows[id]? with
    | none => rfl
    | some w => rw [Option.map_some, Option.map_some, same w found]
  . rfl

theorem Windows.modify_modify (windows : Windows) (id : WindowId) (f g : Window → Window) :
    (windows.modify id f).modify id g = windows.modify id fun w => g (f w) := by
  apply Array.ext_getElem?
  intro i
  rw [Array.getElem?_modify, Array.getElem?_modify, Array.getElem?_modify]
  split
  . rw [Option.map_map]
    rfl
  . rfl

theorem Windows.modify_idle {windows : Windows} {id : WindowId} {f : Window → Window}
    (same : ∀ w, windows[id]? = some w → f w = w) : windows.modify id f = windows := by
  apply Array.ext_getElem?
  intro i
  rw [Array.getElem?_modify]
  split
  . next hit =>
    subst hit
    cases found : windows[id]? with
    | none => rfl
    | some w => rw [Option.map_some, same w found]
  . rfl

namespace Surface

def plot (s : Surface) (windows : Windows) (rule : Nat → Nat → Option Color) : Surface × Windows :=
  s.paint windows fun s => plotAll s rule

variable {s : Surface} {windows : Windows}

theorem plot_congr (same : ∀ x y, x < (s.packedLayout windows).width →
      y < (s.packedLayout windows).height → rule x y = rule' x y) :
    s.plot windows rule = s.plot windows rule' := by
  cases s with
  | buffer fb => rw [plot, plot, paint, paint, Canvas.plotAll_congr same]
  | screen display => rw [plot, plot, paint, paint, Canvas.plotAll_congr same]
  | raster grid => rw [plot, plot, paint, paint, Canvas.plotAll_congr same]
  | window id =>
    rw [plot, plot, paint, paint, Windows.modify_congr]
    intro w found
    rw [packedLayout_window found] at same
    exact Canvas.plotAll_congr same

theorem plot_idle (blank : ∀ x y, x < (s.packedLayout windows).width →
      y < (s.packedLayout windows).height → rule x y = none) :
    s.plot windows rule = (s, windows) := by
  cases s with
  | buffer fb => rw [plot, paint, Canvas.plotAll_idle blank]
  | screen display => rw [plot, paint, Canvas.plotAll_idle blank]
  | raster grid => rw [plot, paint, Canvas.plotAll_idle blank]
  | window id =>
    rw [plot, paint, Windows.modify_idle]
    intro w found
    rw [packedLayout_window found] at blank
    exact Canvas.plotAll_idle blank

section

variable (valid : (s.packedLayout windows).Valid) (whole : s.Whole)
include valid whole

theorem plot_plot (rule rule' : Nat → Nat → Option Color) :
    (s.plot windows rule).1.plot (s.plot windows rule).2 rule' = s.plot windows (overlay rule' rule) := by
  cases s with
  | buffer fb => simp only [plot, paint, FrameBuffer.plotAll_plotAll]
  | screen display => simp only [plot, paint, Screen.plotAll_plotAll]
  | raster grid =>
    have intact : Intact grid := ⟨whole, valid.width_le, valid.height_le⟩
    simp only [plot, paint, Raster.plotAll_plotAll intact]
  | window id =>
    simp only [plot, paint, Windows.modify_modify]
    rw [Windows.modify_congr]
    intro w _
    exact w.plotAll_plotAll rule rule'

theorem paint_copyTo_eq_plot {back : FrameBuffer} (shadow : back.IsShadow) (area : Rect) :
    (s.paint windows fun s => back.copyTo s area.pos area) = s.plot windows (within [area] back.color?) := by
  cases s with
  | buffer fb =>
    have intact : Intact fb := trivial
    rw [plot, paint, paint, FrameBuffer.copyTo_eq_plotAll intact shadow]
  | screen display =>
    have intact : Intact display := trivial
    rw [plot, paint, paint, FrameBuffer.copyTo_eq_plotAll intact shadow]
  | raster grid =>
    have intact : Intact grid := ⟨whole, valid.width_le, valid.height_le⟩
    rw [plot, paint, paint, FrameBuffer.copyTo_eq_plotAll intact shadow]
  | window id =>
    rw [plot, paint, paint, Windows.modify_congr]
    intro w _
    have intact : Intact w := trivial
    exact FrameBuffer.copyTo_eq_plotAll intact shadow area

end

end Surface
end Overlay
