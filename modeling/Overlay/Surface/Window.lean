import Overlay.Surface.FrameBuffer

/-!
This module contains windows: the pictures that layers put on the screen. A window keeps every pixel
twice, as a colour to read and to compare with the transparent one, and encoded in a shadow buffer, from
which opaque windows are copied row by row.
-/

namespace Overlay

structure Window where
  shadow : FrameBuffer
  pixels : Array Color
  /-- The colour that is left out when the window is drawn. -/
  key : Option Color
  shadow_packed : shadow.layout.pitch = shadow.layout.width * shadow.layout.bytesPerPixel
  size_pixels : pixels.size = shadow.layout.width * shadow.layout.height

namespace Window

/-- A black window without a transparent colour, whose shadow is in the given format. -/
def black? (width height : Nat) (format : PixelFormat) : Except SurfaceError Window :=
  if valid : (Layout.packed width height format).Valid then
    let layout := Layout.packed width height format
    .ok {
      shadow := ⟨layout, Storage.zeros layout.byteSize, valid, Storage.size_zeros _⟩
      pixels := .replicate (width * height) .black
      key := none
      shadow_packed := rfl
      size_pixels := Array.size_replicate }
  else
    .error .invalidGeometry

def width (w : Window) : Nat := w.shadow.layout.width

def height (w : Window) : Nat := w.shadow.layout.height

def format (w : Window) : PixelFormat := w.shadow.layout.format

def size (w : Window) : Point := w.shadow.layout.size

def bounds (w : Window) : Rect := .ofSize w.size

def setKey (w : Window) (key : Option Color) : Window := { w with key := key }

def index (w : Window) (x y : Nat) : Nat := y * w.width + x

def pixel? (w : Window) (p : Point) : Option Color :=
  if w.bounds.contains p then w.pixels[w.index p.x.toNat p.y.toNat]? else none

@[inline]
def mapPicture (w : Window) (f : FrameBuffer → FrameBuffer) (g : Array Color → Array Color)
    (hf : ∀ fb, (f fb).layout = fb.layout) (hg : ∀ pixels, (g pixels).size = pixels.size) : Window :=
  match w with
  | ⟨shadow, pixels, key, shadow_packed, size_pixels⟩ =>
    ⟨f shadow, g pixels, key, by rw [hf, shadow_packed], by rw [hf, hg, size_pixels]⟩

/-- Stores a colour at the place computed for column `x` of row `y`, in both copies. A place past the
end of the picture is no place. -/
def writePixel (w : Window) (x y : Nat) (color : Color) : Window :=
  let place := w.index x y
  if place < w.pixels.size then
    w.mapPicture (·.writePixel x y color) (·.setIfInBounds place color)
      (fun _ => FrameBuffer.layout_writePixel ..) (fun _ => Array.size_setIfInBounds ..)
  else
    w

instance : Canvas Window where
  width := width
  height := height
  format := format
  writePixel := writePixel

/-- Moves a run of colours from one place to another. The run is read before any of it is written. -/
def moveRun (pixels : Array Color) (source target length : Nat) : Array Color :=
  let run := pixels.extract source (source + length)
  Nat.fold run.size (fun i _ pixels => pixels.setIfInBounds (target + i) run[i]) pixels

theorem size_moveRun (pixels : Array Color) (source target length : Nat) :
    (moveRun pixels source target length).size = pixels.size := by
  unfold moveRun
  apply Loop.invariant (motive := fun other : Array Color => other.size = pixels.size)
  . rfl
  . intro i h other ih
    rw [Array.size_setIfInBounds, ih]

def moveRows (pixels : Array Color) (width : Nat) (t : Transfer) : Array Color :=
  Nat.fold t.rows
    (fun i _ pixels =>
      moveRun pixels ((t.source.pos.y.toNat + t.rowOrder i) * width + t.source.pos.x.toNat)
        ((t.target.y.toNat + t.rowOrder i) * width + t.target.x.toNat) t.columns)
    pixels

theorem size_moveRows (pixels : Array Color) (width : Nat) (t : Transfer) :
    (moveRows pixels width t).size = pixels.size := by
  apply Loop.invariant (motive := fun other : Array Color => other.size = pixels.size)
  . rfl
  . intro i h other ih
    rw [size_moveRun, ih]

def moveRect (w : Window) (target : Point) (area : Rect) : Window :=
  match Transfer.clip area w.bounds target w.bounds with
  | none => w
  | some t =>
    let width := w.width
    w.mapPicture (·.moveRect target area) (moveRows · width t)
      (fun _ => FrameBuffer.layout_moveRect ..) (fun _ => size_moveRows ..)

def scrollUp (w : Window) (rows : Coord) (fill : Color) : Window :=
  let size := w.size
  if rows ≤ 0 then
    w
  else if size.y ≤ rows then
    Canvas.clear w fill
  else
    let w := w.moveRect .origin ⟨⟨0, rows⟩, ⟨size.x, size.y - rows⟩⟩
    Canvas.fillRect w ⟨⟨0, size.y - rows⟩, ⟨size.x, rows⟩⟩ fill

/-- Draws the window on a surface with its origin at `offset`, as far as it lies in `area`. A window
without a transparent colour is copied from its shadow; else the pixels of any other colour are written
one by one. -/
def drawInto [Canvas σ] (w : Window) (sink : σ) (offset : Point) (area : Rect) : σ :=
  let clip := ((Rect.mk offset w.size).inter area).inter (Canvas.bounds sink)
  if clip.isEmpty then
    sink
  else
    match w.key with
    | none => w.shadow.copyTo sink clip.pos (clip.shift (-offset))
    | some key =>
      Nat.fold (clip.bottom.val - clip.pos.y.val).toNat
        (fun i _ sink =>
          let y := clip.pos.y.val + i
          Nat.fold (clip.right.val - clip.pos.x.val).toNat
            (fun j _ sink =>
              let x := clip.pos.x.val + j
              match w.pixels[w.index (x - offset.x.val).toNat (y - offset.y.val).toNat]? with
              | some color =>
                if color = key then sink else Canvas.writePixel sink x.toNat y.toNat color
              | none => sink)
            sink)
        sink

end Window
end Overlay
