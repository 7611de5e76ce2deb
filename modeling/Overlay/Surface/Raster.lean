import Overlay.Canvas.Basic

/-!
This module contains rasters: surfaces of any size that keep plain colours, and nothing of what is
painted outside. A raster may also have no cells at all, and then only a size.
-/

namespace Overlay

structure Raster where
  width : Nat
  height : Nat
  format : PixelFormat
  cells : Array Color

namespace Raster

def black (width height : Nat) (format : PixelFormat) : Raster :=
  ⟨width, height, format, .replicate (width * height) .black⟩

/-- A raster that forgets all that is painted on it. -/
def hollow (width height : Nat) (format : PixelFormat) : Raster := ⟨width, height, format, #[]⟩

def writePixel (raster : Raster) (x y : Nat) (color : Color) : Raster :=
  if x < raster.width ∧ y < raster.height then
    { raster with cells := raster.cells.setIfInBounds (y * raster.width + x) color }
  else
    raster

def pixel? (raster : Raster) (p : Point) : Option Color :=
  if (Rect.ofSize ⟨.wrap raster.width, .wrap raster.height⟩).contains p then
    raster.cells[p.y.toNat * raster.width + p.x.toNat]?
  else
    none

instance : Canvas Raster where
  width := width
  height := height
  format := format
  writePixel := writePixel

end Raster
end Overlay
