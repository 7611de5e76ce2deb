import Overlay.Canvas.Basic
import Overlay.Geometry.Transfer
import Overlay.Loop
import Overlay.SurfaceError

/-!
This module contains frame buffers: off-screen surfaces that own their memory, in any layout. They can
be read back, and a part of one can be copied onto any surface or moved about in place.
-/

namespace Overlay

structure FrameBuffer where
  layout : Layout
  data : ByteArray
  valid : layout.Valid
  size_data : data.size = layout.byteSize

namespace FrameBuffer

def ofLayout? (layout : Layout) : Except SurfaceError FrameBuffer :=
  if valid : layout.Valid then
    .ok ⟨layout, Storage.zeros layout.byteSize, valid, Storage.size_zeros _⟩
  else
    .error .invalidGeometry

def packed? (width height : Nat) (format : PixelFormat) : Except SurfaceError FrameBuffer :=
  ofLayout? (.packed width height format)

@[inline]
def mapData (fb : FrameBuffer) (f : ByteArray → ByteArray)
    (h : ∀ data, (f data).size = data.size) : FrameBuffer :=
  match fb with
  | ⟨layout, data, valid, size_data⟩ => ⟨layout, f data, valid, (h data).trans size_data⟩

def bounds (fb : FrameBuffer) : Rect := .ofSize fb.layout.size

def pixel? (fb : FrameBuffer) (p : Point) : Option Color :=
  if fb.bounds.contains p then
    some (fb.layout.format.decodeAt fb.data (fb.layout.offset p.x.toNat p.y.toNat))
  else
    none

def rowBytes (fb : FrameBuffer) (x y count : Nat) : ByteArray :=
  let start := fb.layout.offset x y
  fb.data.extract start (start + count * fb.layout.bytesPerPixel)

/-- Stores a colour at the place computed for column `x` of row `y`. A column past the end of its row
has its place in the row below; a place past the end of the memory is no place. -/
def writePixel (fb : FrameBuffer) (x y : Nat) (color : Color) : FrameBuffer :=
  let start := fb.layout.offset x y
  if start + fb.layout.bytesPerPixel ≤ fb.data.size then
    let bytes := fb.layout.format.encode color
    fb.mapData (Storage.write · start bytes) fun _ => Storage.size_write ..
  else
    fb

/-- Stores a row of pixels. In the format of the buffer the bytes are copied as they are, reserved
bytes included; else each pixel is decoded and written. -/
def copyRow (fb : FrameBuffer) (x y : Nat) (row : ByteArray) (format : PixelFormat) : FrameBuffer :=
  if format = fb.layout.format then
    let start := fb.layout.offset x y
    fb.mapData (Storage.overwrite · start row) fun _ => Storage.size_overwrite ..
  else
    copyPixels (fun fb x color => fb.writePixel x y color) fb x row format

instance : Canvas FrameBuffer where
  width fb := fb.layout.width
  height fb := fb.layout.height
  format fb := fb.layout.format
  writePixel := writePixel
  copyRow := copyRow

def copyTo [Canvas σ] (fb : FrameBuffer) (sink : σ) (target : Point) (area : Rect) : σ :=
  match Transfer.clip area fb.bounds target (Canvas.bounds sink) with
  | none => sink
  | some t =>
    Nat.fold t.rows
      (fun i _ sink =>
        Canvas.copyRow sink t.target.x.toNat (t.target.y.toNat + i)
          (fb.rowBytes t.source.pos.x.toNat (t.source.pos.y.toNat + i) t.columns)
          fb.layout.format)
      sink

def moveRun (fb : FrameBuffer) (sourceX sourceY targetX targetY count : Nat) : FrameBuffer :=
  let source := fb.layout.offset sourceX sourceY
  let target := fb.layout.offset targetX targetY
  let length := count * fb.layout.bytesPerPixel
  fb.mapData (Storage.move · source target length) fun _ => Storage.size_move ..

def moveRect (fb : FrameBuffer) (target : Point) (area : Rect) : FrameBuffer :=
  match Transfer.clip area fb.bounds target fb.bounds with
  | none => fb
  | some t =>
    Nat.fold t.rows
      (fun i _ fb =>
        fb.moveRun t.source.pos.x.toNat (t.source.pos.y.toNat + t.rowOrder i)
          t.target.x.toNat (t.target.y.toNat + t.rowOrder i) t.columns)
      fb

@[simp]
theorem layout_writePixel (fb : FrameBuffer) (x y : Nat) (color : Color) :
    (fb.writePixel x y color).layout = fb.layout := by
  unfold writePixel mapData
  dsimp only
  split <;> rfl

@[simp]
theorem layout_copyRow (fb : FrameBuffer) (x y : Nat) (row : ByteArray) (format : PixelFormat) :
    (fb.copyRow x y row format).layout = fb.layout := by
  unfold copyRow mapData
  split
  . rfl
  . unfold copyPixels
    apply Loop.invariant (motive := fun other : FrameBuffer => other.layout = fb.layout)
    . rfl
    . intro i h other ih
      rw [layout_writePixel, ih]

@[simp]
theorem layout_moveRun (fb : FrameBuffer) (sourceX sourceY targetX targetY count : Nat) :
    (fb.moveRun sourceX sourceY targetX targetY count).layout = fb.layout := by
  unfold moveRun mapData
  rfl

@[simp]
theorem layout_moveRect (fb : FrameBuffer) (target : Point) (area : Rect) :
    (fb.moveRect target area).layout = fb.layout := by
  unfold moveRect
  split
  . rfl
  . apply Loop.invariant (motive := fun other : FrameBuffer => other.layout = fb.layout)
    . rfl
    . intro i h other ih
      rw [layout_moveRun, ih]

end FrameBuffer
end Overlay
