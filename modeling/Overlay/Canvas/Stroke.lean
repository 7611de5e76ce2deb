import Overlay.Canvas.Basic

/-!
This module contains the painting operations as data, so that a painting is a list of them.
-/

namespace Overlay

inductive Stroke where
  | pixel (x y : Nat) (color : Color)
  | row (x y : Nat) (bytes : ByteArray) (format : PixelFormat)
  | put (p : Point) (color : Color)
  | span (y x0 x1 : Coord) (color : Color)
  | hline (x0 x1 y : Coord) (color : Color)
  | vline (x y0 y1 : Coord) (color : Color)
  | rect (area : Rect) (color : Color)
  | clear (color : Color)

namespace Stroke

variable {σ : Type} [Canvas σ]

def apply (s : σ) : Stroke → σ
  | .pixel x y color => Canvas.writePixel s x y color
  | .row x y bytes format => Canvas.copyRow s x y bytes format
  | .put p color => Canvas.put s p color
  | .span y x0 x1 color => Canvas.fillRowSpan s y x0 x1 color
  | .hline x0 x1 y color => Canvas.hline s x0 x1 y color
  | .vline x y0 y1 color => Canvas.vline s x y0 y1 color
  | .rect area color => Canvas.fillRect s area color
  | .clear color => Canvas.clear s color

def applyAll (s : σ) (strokes : List Stroke) : σ := strokes.foldl apply s

end Stroke
end Overlay
