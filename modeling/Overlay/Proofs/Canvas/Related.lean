import Overlay.Canvas.Stroke
import Overlay.Proofs.Loop
import Overlay.Surface.Window

/-!
This module contains relations between surfaces of the same size. All paintings are made of stores, so
that a relation which each store keeps is one that each painting keeps.
-/

namespace Overlay

inductive Painting where
  | stroke (mark : Stroke)
  | copy (source : FrameBuffer) (target : Point) (area : Rect)
  | draw (w : Window) (offset : Point) (area : Rect)

namespace Painting

variable {σ : Type} [Canvas σ]

def apply (s : σ) : Painting → σ
  | .stroke mark => mark.apply s
  | .copy source target area => source.copyTo s target area
  | .draw w offset area => w.drawInto s offset area

def applyAll (s : σ) (paintings : List Painting) : σ := paintings.foldl apply s

end Painting

namespace Canvas

variable {σ τ : Type} [Canvas σ] [Canvas τ]

structure Related (R : σ → τ → Prop) : Prop where
  width : ∀ {s t}, R s t → width s = width t
  height : ∀ {s t}, R s t → height s = height t

namespace Related

variable {R : σ → τ → Prop} (related : Related R) {s : σ} {t : τ} (h : R s t)

section

include related h

theorem extent : extent s = extent t := by
  rw [Canvas.extent, Canvas.extent, related.width h, related.height h]

theorem bounds : bounds s = bounds t := by
  rw [Canvas.bounds, Canvas.bounds, related.extent h]

theorem clipRowSpan (row x0 x1 : Coord) : clipRowSpan s row x0 x1 = clipRowSpan t row x0 x1 := by
  rw [Canvas.clipRowSpan, Canvas.clipRowSpan, related.extent h]

end

section

variable (written : ∀ s t x y color, R s t → R (writePixel s x y color) (writePixel t x y color))
include related h written

theorem put (p : Point) (color : Color) : R (put s p color) (put t p color) := by
  unfold Canvas.put
  dsimp only
  rw [related.extent h]
  split
  . exact h
  . apply written
    exact h

theorem fillRowSpan (row x0 x1 : Coord) (color : Color) :
    R (fillRowSpan s row x0 x1 color) (fillRowSpan t row x0 x1 color) := by
  unfold Canvas.fillRowSpan
  rw [related.clipRowSpan h]
  split
  . exact h
  . apply Loop.relate
    . exact h
    . intro i _ s t h
      apply written
      exact h

theorem hline (x0 x1 y : Coord) (color : Color) : R (hline s x0 x1 y color) (hline t x0 x1 y color) := by
  apply fillRowSpan related _ written
  exact h

theorem vline (x y0 y1 : Coord) (color : Color) : R (vline s x y0 y1 color) (vline t x y0 y1 color) := by
  unfold Canvas.vline
  dsimp only
  rw [related.extent h]
  split
  . exact h
  . apply Loop.relate
    . exact h
    . intro i _ s t h
      apply written
      exact h

theorem fillRect (rect : Rect) (color : Color) : R (fillRect s rect color) (fillRect t rect color) := by
  unfold Canvas.fillRect
  dsimp only
  rw [related.bounds h]
  split
  . exact h
  . apply Loop.relate
    . exact h
    . intro i _ s t h
      apply fillRowSpan related _ written
      exact h

theorem clear (color : Color) : R (clear s color) (clear t color) := by
  rw [Canvas.clear, Canvas.clear, related.bounds h]
  apply fillRect related _ written
  exact h

end

/-! Some paintings store whole rows too, which some surfaces do in a way of their own. -/

variable (copied : ∀ s t x y row format, R s t → R (copyRow s x y row format) (copyRow t x y row format))
include related h copied

theorem copyTo (fb : FrameBuffer) (target : Point) (area : Rect) :
    R (fb.copyTo s target area) (fb.copyTo t target area) := by
  unfold FrameBuffer.copyTo
  rw [related.bounds h]
  split
  . exact h
  . apply Loop.relate
    . exact h
    . intro i _ s t h
      apply copied
      exact h

variable (written : ∀ s t x y color, R s t → R (writePixel s x y color) (writePixel t x y color))
include written

theorem stroke (mark : Stroke) : R (mark.apply s) (mark.apply t) := by
  cases mark with
  | pixel x y color => exact written _ _ _ _ _ h
  | row x y bytes format => exact copied _ _ _ _ _ _ h
  | put p color => exact related.put h written p color
  | span y x0 x1 color => exact related.fillRowSpan h written y x0 x1 color
  | hline x0 x1 y color => exact related.hline h written x0 x1 y color
  | vline x y0 y1 color => exact related.vline h written x y0 y1 color
  | rect area color => exact related.fillRect h written area color
  | clear color => exact related.clear h written color

theorem drawInto (w : Window) (offset : Point) (area : Rect) :
    R (w.drawInto s offset area) (w.drawInto t offset area) := by
  unfold Window.drawInto
  dsimp only
  rw [related.bounds h]
  split
  . exact h
  . split
    . exact related.copyTo h copied _ _ _
    . apply Loop.relate
      . exact h
      . intro i _ s t h
        apply Loop.relate
        . exact h
        . intro j _ s t h
          split
          . split
            . exact h
            . apply written
              exact h
          . exact h

theorem painting (painting : Painting) : R (painting.apply s) (painting.apply t) := by
  cases painting with
  | stroke mark => exact related.stroke h copied written mark
  | copy source target area => exact related.copyTo h copied source target area
  | draw w offset area => exact related.drawInto h copied written w offset area

theorem paintings (paintings : List Painting) :
    R (Painting.applyAll s paintings) (Painting.applyAll t paintings) := by
  induction paintings generalizing s t with
  | nil => exact h
  | cons painting paintings ih => exact ih (related.painting h copied written painting)

end Related
end Canvas
end Overlay
