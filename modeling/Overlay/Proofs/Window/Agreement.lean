import Overlay.Canvas.Stroke
import Overlay.Proofs.Canvas.Kept
import Overlay.Proofs.Surface.FrameBuffer
import Overlay.Proofs.Surface.Window

/-!
This module contains the agreement of the two copies of a window's picture: whatever is done to a window,
its shadow holds the encodings of its colours, one after the other.
-/

namespace Overlay
namespace Window

inductive Edit where
  | stroke (stroke : Stroke)
  | move (target : Point) (area : Rect)
  | scroll (rows : Coord) (fill : Color)
  | setKey (key : Option Color)
  | copy (source : FrameBuffer) (target : Point) (area : Rect)
  | draw (source : Window) (offset : Point) (area : Rect)

def edit (w : Window) : Edit → Window
  | .stroke stroke => stroke.apply w
  | .move target area => w.moveRect target area
  | .scroll rows fill => w.scrollUp rows fill
  | .setKey key => w.setKey key
  | .copy source target area => source.copyTo w target area
  | .draw source offset area => source.drawInto w offset area

def editAll (w : Window) (edits : List Edit) : Window := edits.foldl edit w

/-- The windows that there are: those that were black once, and were edited since. -/
def Reachable (w : Window) : Prop :=
  ∃ width height format start edits, black? width height format = .ok start ∧ w = start.editAll edits

def InSync (w : Window) : Prop :=
  Storage.bytes w.shadow.data = w.format.encodeAll w.pixels.toList

variable {w : Window}

theorem offset_eq (w : Window) (x y : Nat) :
    w.shadow.layout.offset x y = w.index x y * w.format.bytesPerPixel := by
  rw [Layout.offset, w.shadow_packed, index, Nat.add_mul, Nat.mul_assoc]
  rfl

theorem size_data (w : Window) : w.shadow.data.size = w.pixels.size * w.format.bytesPerPixel := by
  rw [w.shadow.size_data, Layout.byteSize, w.shadow_packed, w.size_pixels, Nat.mul_right_comm]
  rfl

theorem fits_iff (w : Window) (x y : Nat) :
    w.shadow.layout.offset x y + w.shadow.layout.bytesPerPixel ≤ w.shadow.data.size
      ↔
    w.index x y < w.pixels.size := by
  rw [offset_eq, size_data]
  show _ + w.format.bytesPerPixel ≤ _ ↔ _
  rw [← Nat.succ_mul, Nat.mul_le_mul_right_iff w.format.bytesPerPixel_pos]
  exact Nat.succ_le_iff

theorem shadow_writePixel (w : Window) (x y : Nat) (color : Color) :
    (w.writePixel x y color).shadow = w.shadow.writePixel x y color := by
  unfold writePixel FrameBuffer.writePixel
  dsimp only
  by_cases inside : w.index x y < w.pixels.size
  . rw [if_pos inside, if_pos ((w.fits_iff x y).mpr inside)]
    show w.shadow.writePixel x y color = _
    rw [FrameBuffer.writePixel]
    dsimp only
    rw [if_pos ((w.fits_iff x y).mpr inside)]
  . rw [if_neg inside, if_neg (mt (w.fits_iff x y).mp inside)]

theorem inSync_writePixel (sync : w.InSync) (x y : Nat) (color : Color) :
    (w.writePixel x y color).InSync := by
  by_cases inside : w.index x y < w.pixels.size
  . have format : (w.writePixel x y color).format = w.format := by
      rw [Window.format, layout_writePixel, Window.format]
    rw [InSync, format, shadow_writePixel, pixels_writePixel,
      FrameBuffer.bytes_writePixel ((w.fits_iff x y).mpr inside), offset_eq, sync,
      Array.toList_setIfInBounds, set_eq_splice color inside, PixelFormat.encodeAll_splice,
      PixelFormat.encodeAll_singleton]
    rfl
  . unfold writePixel
    dsimp only
    rw [if_neg inside]
    exact sync

theorem kept_inSync : Canvas.Kept InSync := by
  intro w x y color sync
  exact inSync_writePixel sync x y color

theorem toList_moveRun {pixels : Array Color} {source target length : Nat}
    (source_fits : source + length ≤ pixels.size) (target_fits : target + length ≤ pixels.size) :
    (moveRun pixels source target length).toList
      =
    splice pixels.toList target ((pixels.toList.drop source).take length) := by
  let run := pixels.extract source (source + length)
  have toList_run : run.toList = (pixels.toList.drop source).take length := by
    simp [run]
  have size_run : run.size = length := by
    simp only [run, Array.size_extract]
    omega
  have moved : (moveRun pixels source target length).toList
      = splice pixels.toList target (run.toList.take run.size) := by
    apply Loop.progress (motive := fun k (other : Array Color) =>
      other.toList = splice pixels.toList target (run.toList.take k))
    . simp
    . intro k hk other stored
      replace hk : k < run.size := hk
      have front : (run.toList.take k).length = k := by
        rw [List.length_take, Array.length_toList, Nat.min_eq_left (by omega)]
      have next : run.toList.take (k + 1) = run.toList.take k ++ [run[k]] := by
        rw [List.take_succ_eq_append_getElem (by rw [Array.length_toList]; exact hk)]
        rfl
      rw [Array.toList_setIfInBounds, stored, next, splice_append, front, set_eq_splice]
      . rw [length_splice]
        . rw [Array.length_toList]
          omega
        . rw [front, Array.length_toList]
          omega
      . rw [List.length_append, front, List.length_singleton, Array.length_toList]
        omega
  rw [moved, ← toList_run, ← Array.length_toList, List.take_length]

/-- A frame buffer and an array of colours that may be the two copies of one picture. -/
structure Agree (layout : Layout) (fb : FrameBuffer) (pixels : Array Color) : Prop where
  layout_eq : fb.layout = layout
  size_eq : pixels.size = layout.width * layout.height
  bytes_eq : Storage.bytes fb.data = layout.format.encodeAll pixels.toList

theorem Agree.moveRun {layout : Layout} {fb : FrameBuffer} {pixels : Array Color}
    (agree : Agree layout fb pixels) (packed : layout.pitch = layout.width * layout.bytesPerPixel)
    {sx sy tx ty count : Nat} (hsx : sx + count ≤ layout.width) (hsy : sy < layout.height)
    (htx : tx + count ≤ layout.width) (hty : ty < layout.height) :
    Agree layout (fb.moveRun sx sy tx ty count)
      (Window.moveRun pixels (sy * layout.width + sx) (ty * layout.width + tx) count) := by
  obtain ⟨rfl, size, bytes⟩ := agree
  have place : ∀ x y, fb.layout.offset x y
      = (y * fb.layout.width + x) * fb.layout.format.bytesPerPixel := by
    intro x y
    rw [Layout.offset, packed, Nat.add_mul, Nat.mul_assoc]
    rfl
  have strip_fits : ∀ x y, x + count ≤ fb.layout.width → y < fb.layout.height →
      y * fb.layout.width + x + count ≤ pixels.size := by
    intro x y hx hy
    rw [size]
    exact Grid.strip_fits hx hy
  constructor
  . exact FrameBuffer.layout_moveRun ..
  . rw [size_moveRun, size]
  . rw [toList_moveRun (strip_fits sx sy hsx hsy) (strip_fits tx ty htx hty)]
    rw [PixelFormat.encodeAll_splice, PixelFormat.encodeAll_take, PixelFormat.encodeAll_drop]
    rw [FrameBuffer.moveRun, FrameBuffer.data_mapData, Storage.bytes_move, bytes, place, place]
    . rfl
    . exact FrameBuffer.fits hsx hsy
    . exact FrameBuffer.fits htx hty

theorem inSync_moveRect (sync : w.InSync) (target : Point) (area : Rect) :
    (w.moveRect target area).InSync := by
  unfold moveRect
  cases h : Transfer.clip area w.bounds target w.bounds with
  | none => exact sync
  | some t =>
    have columns := (Transfer.clipped_of_clip h).columns_fit
    have rows := (Transfer.clipped_of_clip h).rows_fit
    rw [size, w.shadow.valid.toNat_size_x] at columns
    rw [size, w.shadow.valid.toNat_size_y] at rows
    -- The shadow clips the move once more, with the same outcome.
    have again : Transfer.clip area w.shadow.bounds target w.shadow.bounds = some t := h
    have agree : Agree w.shadow.layout (w.shadow.moveRect target area)
        (moveRows w.pixels w.width t) := by
      rw [FrameBuffer.moveRect, again]
      apply Loop.relate
      . exact ⟨rfl, w.size_pixels, sync⟩
      . intro i hi fb pixels agree
        have := Transfer.rowOrder_lt hi
        apply agree.moveRun w.shadow_packed <;> omega
    show Storage.bytes (w.shadow.moveRect target area).data
      = (w.shadow.moveRect target area).layout.format.encodeAll (moveRows w.pixels w.width t).toList
    rw [agree.layout_eq]
    exact agree.bytes_eq

theorem inSync_copyRow (sync : w.InSync) (x y : Nat) (row : ByteArray) (format : PixelFormat) :
    InSync (Canvas.copyRow w x y row format) :=
  kept_inSync.copyPixels sync x y row format

theorem inSync_scrollUp (sync : w.InSync) (rows : Coord) (fill : Color) :
    (w.scrollUp rows fill).InSync := by
  unfold scrollUp
  dsimp only
  split
  . exact sync
  . split
    . exact kept_inSync.clear sync fill
    . apply kept_inSync.fillRect
      exact inSync_moveRect sync _ _

theorem inSync_edit (sync : w.InSync) (e : Edit) : (w.edit e).InSync := by
  have copied := fun w x y row format sync => inSync_copyRow (w := w) sync x y row format
  cases e with
  | stroke stroke => exact kept_inSync.stroke copied sync stroke
  | move target area => exact inSync_moveRect sync target area
  | scroll rows fill => exact inSync_scrollUp sync rows fill
  | setKey key => exact sync
  | copy source target area => exact Canvas.Kept.copyTo copied sync source target area
  | draw source offset area => exact kept_inSync.drawInto copied sync source offset area

theorem inSync_editAll (sync : w.InSync) (edits : List Edit) : (w.editAll edits).InSync := by
  induction edits generalizing w with
  | nil => exact sync
  | cons e edits ih => exact ih (inSync_edit sync e)

theorem encodeAll_black (format : PixelFormat) (n : Nat) :
    format.encodeAll (List.replicate n .black) = List.replicate (n * format.bytesPerPixel) 0 := by
  have pixel : format.encode .black = List.replicate format.bytesPerPixel 0 := by
    cases format <;> rfl
  rw [PixelFormat.encodeAll, List.flatMap_replicate, pixel, List.flatten_replicate_replicate]

theorem exists_black? {width height : Nat} {format : PixelFormat}
    (valid : (Layout.packed width height format).Valid) :
    ∃ w, black? width height format = .ok w := by
  unfold black?
  rw [dif_pos valid]
  exact ⟨_, rfl⟩

theorem inSync_black? {width height : Nat} {format : PixelFormat}
    (h : black? width height format = .ok w) : w.InSync := by
  unfold black? at h
  split at h
  . injection h with h
    subst h
    show Storage.bytes (Storage.zeros _) = format.encodeAll (Array.replicate _ _).toList
    rw [Storage.bytes_zeros, Array.toList_replicate, encodeAll_black, Layout.byteSize, Layout.packed,
      Nat.mul_right_comm]
  . contradiction

theorem layout_black? {width height : Nat} {format : PixelFormat}
    (h : black? width height format = .ok w) : w.shadow.layout = .packed width height format := by
  unfold black? at h
  split at h
  . injection h with h
    subst h
    rfl
  . contradiction

theorem key_black? {width height : Nat} {format : PixelFormat}
    (h : black? width height format = .ok w) : w.key = none := by
  unfold black? at h
  split at h
  . injection h with h
    subst h
    rfl
  . contradiction

theorem Reachable.inSync (reachable : w.Reachable) : w.InSync := by
  obtain ⟨width, height, format, start, edits, made, rfl⟩ := reachable
  exact inSync_editAll (inSync_black? made) edits

/-! No edit changes the size or the format of a window. -/

theorem kept_layout (layout : Layout) : Canvas.Kept fun w : Window => w.shadow.layout = layout := by
  intro w x y color h
  show (w.writePixel x y color).shadow.layout = layout
  rw [layout_writePixel, h]

theorem layout_copyRow (w : Window) (x y : Nat) (row : ByteArray) (format : PixelFormat) :
    (Canvas.copyRow w x y row format).shadow.layout = w.shadow.layout :=
  (kept_layout w.shadow.layout).copyPixels rfl x y row format

@[simp]
theorem layout_moveRect (w : Window) (target : Point) (area : Rect) :
    (w.moveRect target area).shadow.layout = w.shadow.layout := by
  unfold moveRect
  split
  . rfl
  . exact FrameBuffer.layout_moveRect ..

@[simp]
theorem layout_edit (w : Window) (e : Edit) : (w.edit e).shadow.layout = w.shadow.layout := by
  have kept := kept_layout w.shadow.layout
  have copied : ∀ (v : Window) x y row format, v.shadow.layout = w.shadow.layout →
      (Canvas.copyRow v x y row format).shadow.layout = w.shadow.layout := by
    intro v x y row format h
    rw [layout_copyRow, h]
  cases e with
  | stroke stroke => exact kept.stroke copied rfl stroke
  | move target area => exact layout_moveRect w target area
  | scroll rows fill =>
    show (w.scrollUp rows fill).shadow.layout = _
    unfold scrollUp
    dsimp only
    split
    . rfl
    . split
      . exact kept.clear rfl fill
      . apply kept.fillRect
        exact layout_moveRect ..
  | setKey key => rfl
  | copy source target area =>
    rw [edit]
    exact Canvas.Kept.copyTo copied (s := w) rfl source target area
  | draw source offset area =>
    rw [edit]
    exact kept.drawInto copied (s := w) rfl source offset area

@[simp]
theorem layout_editAll (w : Window) (edits : List Edit) :
    (w.editAll edits).shadow.layout = w.shadow.layout := by
  induction edits generalizing w with
  | nil => rfl
  | cons e edits ih =>
    show ((w.edit e).editAll edits).shadow.layout = _
    rw [ih, layout_edit]

theorem pixel?_eq_shadow (sync : w.InSync) (p : Point) : w.pixel? p = w.shadow.pixel? p := by
  have same : w.shadow.bounds = w.bounds := rfl
  by_cases seen : w.bounds.contains p = true
  . have lt : w.index p.x.toNat p.y.toNat < w.pixels.size := by
      obtain ⟨⟨left, right⟩, top, bottom⟩ := contains_bounds.mp seen
      rw [w.size_pixels]
      show _ < w.width * w.height
      apply Grid.index_lt <;> simp only [Coord.toNat] <;> omega
    have stored : w.pixels.toList[w.index p.x.toNat p.y.toNat]?
        = some w.pixels[w.index p.x.toNat p.y.toNat] := by
      rw [Array.getElem?_toList, Array.getElem?_eq_getElem lt]
    rw [FrameBuffer.pixel?_eq seen, offset_eq, pixel?, if_pos seen, Array.getElem?_eq_getElem lt]
    rw [Option.some_inj]
    exact (w.format.decodeAt_of_encodeAll sync stored).symm
  . rw [pixel?, if_neg seen, FrameBuffer.pixel?, same, if_neg seen]

/-- Whatever is done to a new window, its shadow holds the encodings of its colours row by row, so that
both copies show the same colour at each point. -/
theorem shadow_encodes_pixels {width height : Nat} {format : PixelFormat} {start : Window}
    (made : black? width height format = .ok start) (edits : List Edit) :
    let w := start.editAll edits
    Storage.bytes w.shadow.data = w.pixels.toList.flatMap format.encode
      ∧ ∀ p, w.pixel? p = w.shadow.pixel? p := by
  have sync := inSync_editAll (inSync_black? made) edits
  have same : (start.editAll edits).format = format := by
    rw [Window.format, layout_editAll, layout_black? made]
    rfl
  dsimp only
  constructor
  . rw [sync, same]
    rfl
  . exact pixel?_eq_shadow sync

theorem shadow_encodes_pixels_scrolled :
    ∃ start, black? 3 2 .bgrx8888 = .ok start
      ∧ let w := start.editAll
          [.stroke (.pixel 4 0 .white), .move ⟨1, 0⟩ ⟨⟨0, -1⟩, ⟨9, 9⟩⟩, .scroll 1 .white]
        Storage.bytes w.shadow.data = w.pixels.toList.flatMap (PixelFormat.encode .bgrx8888)
          ∧ ∀ p, w.pixel? p = w.shadow.pixel? p := by
  have made : black? 3 2 .bgrx8888 = .ok _ := rfl
  exact ⟨_, made, shadow_encodes_pixels made _⟩

end Window
end Overlay
