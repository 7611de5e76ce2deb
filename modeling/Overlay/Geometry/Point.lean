import Overlay.Geometry.Coord

/-!
This module contains points of the pixel plane, which also serve as extents and displacements.
-/

namespace Overlay

@[ext]
structure Point where
  x : Coord
  y : Coord
  deriving DecidableEq, Inhabited

namespace Point

def origin : Point := ⟨0, 0⟩

instance : Add Point := ⟨fun p q => ⟨p.x + q.x, p.y + q.y⟩⟩

instance : Sub Point := ⟨fun p q => ⟨p.x - q.x, p.y - q.y⟩⟩

instance : Neg Point := ⟨fun p => ⟨-p.x, -p.y⟩⟩

instance : Max Point := ⟨fun p q => ⟨max p.x q.x, max p.y q.y⟩⟩

instance : Min Point := ⟨fun p q => ⟨min p.x q.x, min p.y q.y⟩⟩

/-- Confines each axis to the closed range from `lo` to `hi`; where that range is empty, `hi` wins. -/
def confine (p lo hi : Point) : Point := min (max p lo) hi

@[simp] theorem x_add (p q : Point) : (p + q).x = p.x + q.x := rfl

@[simp] theorem y_add (p q : Point) : (p + q).y = p.y + q.y := rfl

@[simp] theorem x_sub (p q : Point) : (p - q).x = p.x - q.x := rfl

@[simp] theorem y_sub (p q : Point) : (p - q).y = p.y - q.y := rfl

@[simp] theorem x_neg (p : Point) : (-p).x = -p.x := rfl

@[simp] theorem y_neg (p : Point) : (-p).y = -p.y := rfl

@[simp] theorem x_max (p q : Point) : (max p q).x = max p.x q.x := rfl

@[simp] theorem y_max (p q : Point) : (max p q).y = max p.y q.y := rfl

@[simp] theorem x_min (p q : Point) : (min p q).x = min p.x q.x := rfl

@[simp] theorem y_min (p q : Point) : (min p q).y = min p.y q.y := rfl

end Point
end Overlay
