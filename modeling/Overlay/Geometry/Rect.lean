import Overlay.Geometry.Point

/-!
This module contains axis-aligned rectangles: an origin and an extent, with exclusive far edges. The
far edges saturate, so a rectangle that reaches past the last coordinate ends there.
-/

namespace Overlay

@[ext]
structure Rect where
  pos : Point
  size : Point
  deriving DecidableEq, Inhabited

namespace Rect

def empty : Rect := ⟨.origin, .origin⟩

def ofSize (size : Point) : Rect := ⟨.origin, size⟩

def isEmpty (r : Rect) : Bool := decide (r.size.x ≤ 0) || decide (r.size.y ≤ 0)

def right (r : Rect) : Coord := r.pos.x + r.size.x

def bottom (r : Rect) : Coord := r.pos.y + r.size.y

def corner (r : Rect) : Point := ⟨r.right, r.bottom⟩

/-- The number of pixels that the extent spans, counted without saturation. -/
def area (r : Rect) : Int := if r.isEmpty then 0 else r.size.x.val * r.size.y.val

def contains (r : Rect) (p : Point) : Bool :=
  !r.isEmpty
    && decide (r.pos.x ≤ p.x) && decide (p.x < r.right)
    && decide (r.pos.y ≤ p.y) && decide (p.y < r.bottom)

/-- The overlap of two rectangles; `Rect.empty` if they are disjoint or one of them is degenerate. -/
def inter (a b : Rect) : Rect :=
  if a.isEmpty || b.isEmpty then
    empty
  else
    let pos := max a.pos b.pos
    let overlap : Rect := ⟨pos, min a.corner b.corner - pos⟩
    if overlap.isEmpty then empty else overlap

/-- The smallest rectangle around two rectangles, of which an empty one is left out. -/
def hull (a b : Rect) : Rect :=
  if a.isEmpty then
    b
  else if b.isEmpty then
    a
  else
    let pos := min a.pos b.pos
    ⟨pos, max a.corner b.corner - pos⟩

def shift (r : Rect) (delta : Point) : Rect := ⟨r.pos + delta, r.size⟩

end Rect
end Overlay
