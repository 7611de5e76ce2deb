import Overlay.Canvas.Basic

/-!
This module contains shapes that report the part of a surface that they changed, so that the caller
knows what to repaint.
-/

namespace Overlay
namespace Canvas

variable {σ : Type} [Canvas σ]

def visible? (s : σ) (rect : Rect) : Option Rect :=
  let clipped := rect.inter (bounds s)
  if clipped.isEmpty then none else some clipped

def fillBlock (s : σ) (pos size : Point) (color : Color) : σ × Option Rect :=
  match visible? s ⟨pos, size⟩ with
  | none => (s, none)
  | some damage => (fillRect s damage color, some damage)

/-- Draws the one-pixel border of a block, and returns the area around the part that is visible. A
block without extent has no border. -/
def outline (s : σ) (pos size : Point) (color : Color) : σ × Option Rect :=
  if size.x ≤ 0 ∨ size.y ≤ 0 then
    (s, none)
  else
    let x1 := pos.x + (size.x - 1)
    let y1 := pos.y + (size.y - 1)
    let s := hline s pos.x x1 pos.y color
    let s := hline s pos.x x1 y1 color
    let s := vline s pos.x pos.y y1 color
    let s := vline s x1 pos.y y1 color
    (s, visible? s ⟨pos, size⟩)

end Canvas
end Overlay
