import Overlay.Pixel.Layout

/-!
This module contains the class of surfaces that can be painted on. A surface says how large it is and
how one pixel is stored; the painting operations built on top of that clip to its bounds, so they never
pass a coordinate from outside on.
-/

namespace Overlay

/-- Decodes a row of pixels and writes them one by one, the first into column `x`. Bytes at the end
that do not make up a pixel are left out. -/
@[specialize]
def copyPixels (write : σ → Nat → Color → σ) (s : σ) (x : Nat) (row : ByteArray)
    (format : PixelFormat) : σ :=
  Nat.fold (row.size / format.bytesPerPixel)
    (fun i _ s => write s (x + i) (format.decodeAt row (i * format.bytesPerPixel))) s

class Canvas (σ : Type) where
  width : σ → Nat
  height : σ → Nat
  format : σ → PixelFormat
  /-- Stores a colour in column `x` of row `y`, which the caller has clipped. -/
  writePixel (s : σ) (x y : Nat) (color : Color) : σ
  /-- Stores a row of pixels that are encoded in some format, the first in column `x` of row `y`. -/
  copyRow (s : σ) (x y : Nat) (row : ByteArray) (format : PixelFormat) : σ :=
    copyPixels (fun s x color => writePixel s x y color) s x row format

structure RowSpan where
  row : Nat
  first : Nat
  last : Nat
  deriving DecidableEq

namespace Canvas

variable {σ : Type} [Canvas σ]

/-- The far corner of a surface; a size past the last coordinate wraps around. -/
def extent (s : σ) : Point := ⟨.wrap (width s), .wrap (height s)⟩

def bounds (s : σ) : Rect := .ofSize (extent s)

def clipRowSpan (s : σ) (row x0 x1 : Coord) : Option RowSpan :=
  let size := extent s
  if row < 0 ∨ size.y ≤ row then
    none
  else
    let first := max x0 0
    let last := min x1 (size.x - 1)
    if last < first then none else some ⟨row.toNat, first.toNat, last.toNat⟩

def put (s : σ) (p : Point) (color : Color) : σ :=
  let size := extent s
  if p.x < 0 ∨ p.y < 0 ∨ size.x ≤ p.x ∨ size.y ≤ p.y then
    s
  else
    writePixel s p.x.toNat p.y.toNat color

def fillRowSpan (s : σ) (row x0 x1 : Coord) (color : Color) : σ :=
  match clipRowSpan s row x0 x1 with
  | none => s
  | some span =>
    Nat.fold (span.last + 1 - span.first)
      (fun i _ s => writePixel s (span.first + i) span.row color) s

def hline (s : σ) (x0 x1 y : Coord) (color : Color) : σ :=
  fillRowSpan s y (min x0 x1) (max x0 x1) color

def vline (s : σ) (x y0 y1 : Coord) (color : Color) : σ :=
  let size := extent s
  if x < 0 ∨ size.x ≤ x then
    s
  else
    let first := max (min y0 y1) 0
    let last := min (max y0 y1) (size.y - 1)
    Nat.fold (last.val + 1 - first.val).toNat
      (fun i _ s => writePixel s x.toNat (first.toNat + i) color) s

def fillRect (s : σ) (rect : Rect) (color : Color) : σ :=
  let r := rect.inter (bounds s)
  if r.isEmpty then
    s
  else
    Nat.fold (r.bottom.val - r.pos.y.val).toNat
      (fun i _ s => fillRowSpan s (.clamp (r.pos.y.val + i)) r.pos.x (r.right - 1) color) s

def clear (s : σ) (color : Color) : σ := fillRect s (bounds s) color

end Canvas
end Overlay
