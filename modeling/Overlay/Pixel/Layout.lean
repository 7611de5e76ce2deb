import Overlay.Geometry.Rect
import Overlay.Pixel.Format

/-!
This module contains the layout of a pixel surface: its width and height in pixels, its row stride in
bytes, and the format of each pixel.
-/

namespace Overlay

structure Layout where
  width : Nat
  height : Nat
  /-- The bytes from the start of one row to the start of the next. -/
  pitch : Nat
  format : PixelFormat
  deriving DecidableEq

namespace Layout

def maxDimension : Nat := 8192

def packed (width height : Nat) (format : PixelFormat) : Layout :=
  ⟨width, height, width * format.bytesPerPixel, format⟩

def bytesPerPixel (l : Layout) : Nat := l.format.bytesPerPixel

def byteSize (l : Layout) : Nat := l.pitch * l.height

/-- The extent as a point; sizes past the last coordinate wrap around. -/
def size (l : Layout) : Point := ⟨.wrap l.width, .wrap l.height⟩

/-- A layout has a place for each of its pixels if neither size is zero or out of bounds and a row
fits its stride. -/
structure Valid (l : Layout) : Prop where
  width_pos : 0 < l.width
  height_pos : 0 < l.height
  width_le : l.width ≤ maxDimension
  height_le : l.height ≤ maxDimension
  row_le_pitch : l.width * l.bytesPerPixel ≤ l.pitch

instance (l : Layout) : Decidable l.Valid :=
  decidable_of_iff
    (0 < l.width ∧ 0 < l.height ∧ l.width ≤ maxDimension ∧ l.height ≤ maxDimension
      ∧ l.width * l.bytesPerPixel ≤ l.pitch)
    ⟨fun ⟨a, b, c, d, e⟩ => ⟨a, b, c, d, e⟩, fun ⟨a, b, c, d, e⟩ => ⟨a, b, c, d, e⟩⟩

def offset (l : Layout) (x y : Nat) : Nat := y * l.pitch + x * l.bytesPerPixel

end Layout
end Overlay
