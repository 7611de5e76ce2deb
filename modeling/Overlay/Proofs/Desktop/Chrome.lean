import Overlay.Desktop.Chrome
import Overlay.Proofs.Canvas.Outline
import Overlay.Proofs.Surface.Plot

/-!
This module contains the colours that the desktop and the frame of a window leave on a surface of any size.
Both are a stack of blocks of which the last one that covers a point gives it its colour, and every point is
covered. What was there before is thus gone.
-/

namespace Overlay

open Readable

namespace Picture

/-- A stack of blocks, of which the first one in the list was painted last. -/
def blocks (stack : List (Rect × Color)) : Picture :=
  stack.foldr (fun block below p => (fill (block.1.contains · = true) block.2 p).or (below p)) fun _ => none

section

variable {shape : Point → Prop} [DecidablePred shape] {color : Color} {p : Point}

theorem fill_of_hit (hit : shape p) : fill shape color p = some color := if_pos hit

theorem fill_of_missed (missed : ¬shape p) : fill shape color p = none := if_neg missed

theorem fill_or_eq_some {below : Option Color} {c : Prop} [Decidable c] {other : Color} (hit : shape p ↔ c)
    (missed : ¬c → below = some other) :
    (fill shape color p).or below = some (if c then color else other) := by
  by_cases covered : c
  . rw [fill_of_hit (hit.mpr covered), if_pos covered, Option.some_or]
  . rw [fill_of_missed fun h => covered (hit.mp h), if_neg covered, Option.none_or, missed covered]

end

theorem blocks_cons {block : Rect × Color} {below : List (Rect × Color)} {p : Point} {c : Prop} [Decidable c]
    {other : Color} (hit : block.1.contains p = true ↔ c) (missed : ¬c → blocks below p = some other) :
    blocks (block :: below) p = some (if c then block.2 else other) :=
  fill_or_eq_some hit missed

theorem blocks_singleton {block : Rect × Color} {p : Point} (hit : block.1.contains p = true) :
    blocks [block] p = some block.2 := by
  show (fill (block.1.contains · = true) block.2 p).or none = _
  rw [fill_of_hit hit, Option.some_or]

end Picture

section

variable {σ : Type} [Canvas σ] [LawfulCanvas σ] [PlottedCanvas σ] {s : σ} (hs : Intact s)
include hs

namespace Canvas

theorem fillRects_eq_render (stack : List (Rect × Color)) :
    stack.foldr (fun block s => fillRect s block.1 block.2) s = render s (.blocks stack) := by
  induction stack with
  | nil => exact (plotAll_idle fun _ _ _ _ => rfl).symm
  | cons block below ih =>
    rw [List.foldr_cons, ih, fillRect_eq_render (painted_render hs _).intact, render_render hs]
    rfl

theorem outline_eq_render (pos size : Point) (color : Color) :
    (outline s pos size color).1 = render s (.fill (Border pos size) color) := by
  unfold outline
  dsimp only
  split
  . next empty =>
    rw [Coord.le_def, Coord.le_def, Coord.val_zero] at empty
    apply eq_render_of_apart hs
    rintro p _ ⟨covers, _⟩
    rw [Rect.covers_mk] at covers
    omega
  . next proper =>
    rw [Coord.le_def, Coord.le_def, Coord.val_zero] at proper
    have intact (φ : Picture) : Intact (render s φ) := (painted_render hs φ).intact
    dsimp only
    rw [hline_eq_render hs, hline_eq_render (intact _), render_render hs, vline_eq_render (intact _),
      render_render hs, vline_eq_render (intact _), render_render hs]
    apply render_congr hs
    intro p seen
    have lines := border_iff hs pos seen (by omega : 0 < size.x.val) (by omega : 0 < size.y.val)
    simp only [Picture.fill_or]
    simp only [Picture.fill, lines]

end Canvas

end

namespace Chrome

open Canvas (width height extent bounds render)

def frameBlocks (size : Point) : List (Rect × Color) :=
  [(⟨⟨0, size.y - 1⟩, ⟨size.x, 1⟩⟩, darkColor),
    (⟨⟨1, size.y - 2⟩, ⟨size.x - 2, 1⟩⟩, shadeColor),
    (⟨⟨3, 3⟩, ⟨size.x - 6, titleBarHeight⟩⟩, titleBarColor),
    (⟨⟨2, 2⟩, ⟨size.x - 4, size.y - 4⟩⟩, faceColor),
    (⟨⟨size.x - 1, 0⟩, ⟨1, size.y⟩⟩, darkColor),
    (⟨⟨size.x - 2, 1⟩, ⟨1, size.y - 2⟩⟩, shadeColor),
    (⟨⟨1, 1⟩, ⟨1, size.y - 2⟩⟩, lightColor),
    (⟨⟨0, 0⟩, ⟨1, size.y⟩⟩, faceColor),
    (⟨⟨1, 1⟩, ⟨size.x - 2, 1⟩⟩, lightColor),
    (⟨⟨0, 0⟩, ⟨size.x, 1⟩⟩, faceColor)]

def frameColor (width height x y : Int) : Color :=
  if y = height - 1 then darkColor
  else if y = height - 2 ∧ 1 ≤ x ∧ x ≤ width - 2 then shadeColor
  else if 3 ≤ x ∧ x ≤ width - 4 ∧ 3 ≤ y ∧ y ≤ 20 then titleBarColor
  else if 2 ≤ x ∧ x ≤ width - 3 ∧ 2 ≤ y ∧ y ≤ height - 3 then faceColor
  else if x = width - 1 then darkColor
  else if x = width - 2 ∧ 1 ≤ y ∧ y ≤ height - 2 then shadeColor
  else if x = 1 ∧ 1 ≤ y ∧ y ≤ height - 2 then lightColor
  else if x = 0 then faceColor
  else if y = 1 ∧ 1 ≤ x ∧ x ≤ width - 2 then lightColor
  else faceColor

theorem frameColor_dark {width height x y : Int} (inside : (0 ≤ x ∧ x < width) ∧ 0 ≤ y ∧ y < height)
    (edge : x = width - 1 ∨ y = height - 1) : frameColor width height x y = darkColor := by
  unfold frameColor
  by_cases bottom : y = height - 1
  . rw [if_pos bottom]
  . rw [if_neg bottom, if_neg (by omega), if_neg (by omega), if_neg (by omega), if_pos (by omega)]

theorem frameColor_title {width height x y : Int} (columns : 3 ≤ x ∧ x ≤ width - 4) (rows : 3 ≤ y ∧ y ≤ 20)
    (above : y < height - 2) : frameColor width height x y = titleBarColor := by
  rw [frameColor, if_neg (by omega), if_neg (by omega), if_pos (by omega)]

def desktopColor (background : Color) (width height x y : Int) : Color :=
  if (10 ≤ x ∧ x ≤ 39 ∧ height - 40 ≤ y ∧ y ≤ height - 11)
      ∧ (x = 10 ∨ x = 39 ∨ y = height - 40 ∨ y = height - 11) then startButtonColor
  else if y < height - 50 then background
  else if x < width / 5 then startAreaColor
  else taskBarColor

section

variable {σ : Type} [Canvas σ] [LawfulCanvas σ] [PlottedCanvas σ] {s : σ} (hs : Intact s)
include hs

theorem paintFrame_eq_render :
    paintFrame s = render s fun p => some (frameColor (width s) (height s) p.x.val p.y.val) := by
  have stacked : paintFrame s = render s (.blocks (frameBlocks (extent s))) := by
    rw [← Canvas.fillRects_eq_render hs, frameBlocks]
    repeat rw [List.foldr_cons]
    rw [List.foldr_nil, paintFrame]
  rw [stacked]
  apply Canvas.render_congr hs
  intro p seen
  have inside := Canvas.contains_of_seen hs seen
  have width_le := PlainCanvas.width_le s hs
  have height_le := PlainCanvas.height_le s hs
  have covers := Canvas.contains_iff_covers hs ((PlainCanvas.isSome_pixel? s p hs).symm.trans seen)
  unfold frameBlocks frameColor
  refine Picture.blocks_cons ?_ fun _ => Picture.blocks_cons ?_ fun _ => Picture.blocks_cons ?_ fun _ =>
    Picture.blocks_cons ?_ fun _ => Picture.blocks_cons ?_ fun _ => Picture.blocks_cons ?_ fun _ =>
    Picture.blocks_cons ?_ fun _ => Picture.blocks_cons ?_ fun _ => Picture.blocks_cons ?_ fun _ =>
    Picture.blocks_singleton ?_
  all_goals
    simp only [covers, Rect.covers_mk, Coord.val_sub, Coord.val_ofNat, Canvas.val_extent_x hs,
      Canvas.val_extent_y hs, titleBarHeight]
    omega

theorem paintDesktop_eq_render (background : Color) :
    paintDesktop s background
      =
    render s fun p => some (desktopColor background (width s) (height s) p.x.val p.y.val) := by
  have intact (φ : Picture) : Intact (render s φ) := (Canvas.painted_render hs φ).intact
  rw [paintDesktop]
  rw [Canvas.fillBlock_eq_render hs, Canvas.fillBlock_eq_render (intact _), Canvas.render_render hs,
    Canvas.fillBlock_eq_render (intact _), Canvas.render_render hs, Canvas.outline_eq_render (intact _),
    Canvas.render_render hs]
  apply Canvas.render_congr hs
  intro p seen
  have inside := Canvas.contains_of_seen hs seen
  have width_le := PlainCanvas.width_le s hs
  have height_le := PlainCanvas.height_le s hs
  have covers := Canvas.contains_iff_covers hs ((PlainCanvas.isSome_pixel? s p hs).symm.trans seen)
  have bar : taskBarHeight.val = 50 := rfl
  have top : ((extent s).y - taskBarHeight).val = height s - 50 := by
    rw [Coord.val_sub, Canvas.val_extent_y hs, bar]
    omega
  have area : (startAreaWidth (extent s).x).val = width s / 5 := by
    rw [startAreaWidth, Canvas.val_extent_x hs, Int.tdiv_eq_ediv_of_nonneg (by omega)]
    exact Coord.val_clamp_of_fits (by omega)
  have in_background : (Rect.mk ⟨0, 0⟩ ⟨(extent s).x, (extent s).y - taskBarHeight⟩).contains p = true
      ↔ p.y.val < height s - 50 := by
    simp only [covers, Rect.covers_mk, Coord.val_zero, Canvas.val_extent_x hs, top]
    omega
  have in_bar : (Rect.mk ⟨0, (extent s).y - taskBarHeight⟩ ⟨(extent s).x, taskBarHeight⟩).contains p = true
      ↔ ¬p.y.val < height s - 50 := by
    simp only [covers, Rect.covers_mk, Coord.val_zero, Canvas.val_extent_x hs, top, bar]
    omega
  have in_area : (Rect.mk ⟨0, (extent s).y - taskBarHeight⟩
        ⟨startAreaWidth (extent s).x, taskBarHeight⟩).contains p = true
      ↔ ¬p.y.val < height s - 50 ∧ p.x.val < width s / 5 := by
    simp only [covers, Rect.covers_mk, Coord.val_zero, top, area, bar]
    omega
  apply Picture.fill_or_eq_some
  . simp only [Canvas.Border, Rect.covers_mk, Coord.val_sub, Coord.val_ofNat, Canvas.val_extent_y hs]
    omega
  . intro _
    by_cases above : p.y.val < height s - 50
    . rw [if_pos above, Picture.fill_of_missed (by rw [in_area]; omega), Option.none_or,
        Picture.fill_of_missed (by rw [in_bar]; omega), Option.none_or,
        Picture.fill_of_hit (in_background.mpr above)]
    . rw [if_neg above]
      apply Picture.fill_or_eq_some
      . rw [in_area]
        exact and_iff_right above
      . intro _
        rw [Picture.fill_of_hit (in_bar.mpr above), Option.some_or]

end

/-- A painting that leaves no old pixel: its place on a surface of this size says what colour a pixel gets.
Whatever was painted before leaves no trace, the painting itself included. -/
structure Repaints {σ : Type} [Canvas σ] [Readable σ] (paint : σ → σ) (color : Int → Int → Int → Int → Color)
    (s : σ) : Prop where
  shape : SameShape s (paint s)
  padding : ∀ i, padding? (paint s) i = padding? s i
  pixel : ∀ p : Point, (0 ≤ p.x.val ∧ p.x.val < width s) ∧ 0 ≤ p.y.val ∧ p.y.val < height s →
    pixel? (paint s) p = some (color (width s) (height s) p.x.val p.y.val)
  fresh : ∀ s', SameShape s s' → ∀ p, pixel? (paint s') p = pixel? (paint s) p
  erased : ∀ φ, paint (render s φ) = paint s
  again : paint (paint s) = paint s

structure Covered {σ : Type} [Canvas σ] [Readable σ] (s : σ) (background : Color) : Prop where
  desktop : Repaints (paintDesktop · background) (desktopColor background) s
  frame : Repaints paintFrame frameColor s
  dark : ∀ p : Point, (0 ≤ p.x.val ∧ p.x.val < width s) ∧ 0 ≤ p.y.val ∧ p.y.val < height s →
    p.x.val = width s - 1 ∨ p.y.val = height s - 1 → pixel? (paintFrame s) p = some darkColor
  title : ∀ p : Point, 3 ≤ p.x.val → p.x.val ≤ width s - 4 → 3 ≤ p.y.val → p.y.val ≤ 20 →
    p.y.val < height s - 2 → pixel? (paintFrame s) p = some titleBarColor

section

variable {σ : Type} [Canvas σ] [LawfulCanvas σ] [PlottedCanvas σ] {s : σ} (hs : Intact s)
include hs

theorem repaints {paint : σ → σ} {color : Int → Int → Int → Int → Color}
    (rendered : ∀ s : σ, Intact s →
      paint s = render s fun p => some (color (width s) (height s) p.x.val p.y.val)) :
    Repaints paint color s := by
  have painted := Canvas.painted_render hs fun p => some (color (width s) (height s) p.x.val p.y.val)
  rw [← rendered s hs] at painted
  have erased (φ : Picture) : paint (render s φ) = paint s := by
    have before := Canvas.painted_render hs φ
    rw [rendered _ before.intact, rendered s hs, Canvas.render_render hs, before.width, before.height]
    simp only [Option.some_or]
  constructor
  . exact painted.toSameShape
  . exact painted.padding
  . intro p inside
    have seen : (pixel? s p).isSome = true := by
      rw [PlainCanvas.isSome_pixel? s p hs, Canvas.contains_bounds hs]
      exact inside
    obtain ⟨old, read⟩ := Option.isSome_iff_exists.mp seen
    rw [painted.pixel, read]
    rfl
  . intro s' shape p
    have painted' := Canvas.painted_render shape.intact fun p =>
      some (color (width s') (height s') p.x.val p.y.val)
    rw [← rendered s' shape.intact] at painted'
    have seen : (pixel? s' p).isSome = (pixel? s p).isSome := by
      rw [PlainCanvas.isSome_pixel? s' p shape.intact, PlainCanvas.isSome_pixel? s p hs, shape.bounds]
    rw [painted'.pixel, painted.pixel, shape.width, shape.height]
    cases before : pixel? s p <;> cases before' : pixel? s' p <;> simp_all
  . exact erased
  . have itself := erased fun p => some (color (width s) (height s) p.x.val p.y.val)
    rw [← rendered s hs] at itself
    exact itself

theorem covered (background : Color) : Covered s background where
  desktop := repaints hs fun _ intact => paintDesktop_eq_render intact background
  frame := repaints hs fun _ intact => paintFrame_eq_render intact
  dark p inside edge := by
    rw [(repaints hs fun _ intact => paintFrame_eq_render intact).pixel p inside, frameColor_dark inside edge]
  title p left right top bottom above := by
    have inside : (0 ≤ p.x.val ∧ p.x.val < width s) ∧ 0 ≤ p.y.val ∧ p.y.val < height s := by omega
    rw [(repaints hs fun _ intact => paintFrame_eq_render intact).pixel p inside,
      frameColor_title ⟨left, right⟩ ⟨top, bottom⟩ above]

end

theorem chrome_leaves_no_old_pixel (background : Color) :
    (∀ fb : FrameBuffer, Covered fb background)
      ∧ (∀ screen : Screen, Covered screen background)
      ∧ ∀ w : Window, Covered w background :=
  ⟨fun _ => covered trivial background, fun _ => covered trivial background,
    fun _ => covered trivial background⟩

end Chrome
end Overlay
