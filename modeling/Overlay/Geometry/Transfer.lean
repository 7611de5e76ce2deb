import Overlay.Geometry.Rect

/-!
This module contains the clipping of rectangular copies: which part of a source area has its place on
the destination too.
-/

namespace Overlay

/-- A copy that needs no more clipping: an area of the source, and where its origin goes. -/
structure Transfer where
  source : Rect
  target : Point
  deriving DecidableEq

namespace Transfer

/-- Clips the copy of `area` to `target` against the bounds of both surfaces. What is cut off on one
side is cut off on the other, so each pixel that is left keeps its displacement. -/
def clip (area sourceBounds : Rect) (target : Point) (targetBounds : Rect) : Option Transfer :=
  let delta := target - area.pos
  let source := area.inter sourceBounds
  if source.isEmpty then
    none
  else
    let landed := (source.shift delta).inter targetBounds
    if landed.isEmpty then none else some ⟨landed.shift (-delta), landed.pos⟩

def columns (t : Transfer) : Nat := t.source.size.x.toNat

def rows (t : Transfer) : Nat := t.source.size.y.toNat

/-- The order in which rows are copied within one surface: away from the target, so that no row is
overwritten before it is read. -/
def rowOrder (t : Transfer) (i : Nat) : Nat :=
  if t.target.y ≤ t.source.pos.y then i else t.rows - 1 - i

end Transfer
end Overlay
