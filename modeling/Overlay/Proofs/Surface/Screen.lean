import Overlay.Proofs.Surface.FrameBuffer
import Overlay.Surface.Screen

/-!
This module contains the laws of the physical screen. A screen stores what a frame buffer in its layout
stores, so that each law of frame buffers is one of screens.
-/

namespace Overlay
namespace Screen

def toBuffer (screen : Screen) : FrameBuffer :=
  ⟨screen.layout, screen.memory, screen.valid, screen.size_memory⟩

@[simp]
theorem layout_toBuffer (screen : Screen) : screen.toBuffer.layout = screen.layout := rfl

theorem toBuffer_inj {a b : Screen} (h : a.toBuffer = b.toBuffer) : a = b := by
  cases a
  cases b
  simpa [toBuffer] using h

theorem holds_iff (screen : Screen) (start length : Nat) :
    screen.holds start length = true ↔ start + length ≤ screen.toBuffer.data.size := by
  rw [holds, decide_eq_true_eq, ← screen.size_memory]
  rfl

theorem toBuffer_writePixel (screen : Screen) (x y : Nat) (color : Color) :
    (screen.writePixel x y color).toBuffer = screen.toBuffer.writePixel x y color := by
  have room : screen.layout.format.bytesPerPixel ≤ (Storage.zeros 4).size := by
    rw [Storage.size_zeros]
    cases screen.layout.format <;> decide
  have staged := PixelFormat.take_encodeInto _ color room
  unfold writePixel FrameBuffer.writePixel
  dsimp only
  rw [layout_toBuffer]
  by_cases held : screen.holds (screen.layout.offset x y) screen.layout.bytesPerPixel = true
  . rw [if_pos held, if_pos ((holds_iff ..).mp held), ← staged]
    rfl
  . rw [if_neg held, if_neg fun h => held ((holds_iff ..).mpr h)]

theorem toBuffer_copyPixels (screen : Screen) (x y : Nat) (row : ByteArray) (format : PixelFormat) :
    (copyPixels (fun screen x color => screen.writePixel x y color) screen x row format).toBuffer
      =
    copyPixels (fun fb x color => fb.writePixel x y color) screen.toBuffer x row format := by
  apply Loop.map
  intro i _ screen
  exact toBuffer_writePixel ..

theorem toBuffer_copyRow (screen : Screen) (x y : Nat) (row : ByteArray) (format : PixelFormat) :
    (screen.copyRow x y row format).toBuffer = screen.toBuffer.copyRow x y row format := by
  unfold copyRow FrameBuffer.copyRow
  rw [layout_toBuffer]
  by_cases same : format = screen.layout.format
  . rw [if_neg (not_not_intro same), if_pos same]
    dsimp only
    by_cases held : screen.holds (screen.layout.offset x y) row.size = true
    . rw [if_pos held]
      rfl
    . have dropped := fun h => held ((holds_iff ..).mpr h)
      rw [if_neg held]
      apply FrameBuffer.eq_of_bytes
      . rfl
      . rw [FrameBuffer.data_mapData, Storage.overwrite, if_neg dropped]
  . rw [if_pos same, if_neg same, toBuffer_copyPixels]

instance : Readable Screen where
  pixel? := pixel?
  padding? screen := Readable.padding? screen.toBuffer
  Intact _ := True

open Readable

theorem sameShape_of_toBuffer {a b : Screen} (h : SameShape a.toBuffer b.toBuffer) : SameShape a b where
  width := h.width
  height := h.height
  format := h.format
  intact := trivial

theorem painted_of_toBuffer {φ : Picture} {a b : Screen} (h : Painted φ a.toBuffer b.toBuffer) :
    Painted φ a b where
  toSameShape := sameShape_of_toBuffer h.toSameShape
  pixel := h.pixel
  padding := h.padding

instance : LawfulCanvas Screen where
  width_le screen _ := screen.valid.width_le
  height_le screen _ := screen.valid.height_le
  isSome_pixel? screen p _ := LawfulCanvas.isSome_pixel? screen.toBuffer p trivial
  shape_writePixel screen x y color _ := by
    apply sameShape_of_toBuffer
    show SameShape _ (screen.writePixel x y color).toBuffer
    rw [toBuffer_writePixel]
    exact LawfulCanvas.shape_writePixel _ _ _ _ trivial
  shape_copyRow screen x y row format _ := by
    apply sameShape_of_toBuffer
    show SameShape _ (screen.copyRow x y row format).toBuffer
    rw [toBuffer_copyRow]
    exact LawfulCanvas.shape_copyRow _ _ _ _ _ trivial
  painted_writePixel screen x y color _ hx hy := by
    apply painted_of_toBuffer
    show Painted _ _ (screen.writePixel x y color).toBuffer
    rw [toBuffer_writePixel]
    exact FrameBuffer.painted_writePixel hx hy color
  painted_copyRow screen x y n row format _ hx hy hn := by
    apply painted_of_toBuffer
    show Painted _ _ (screen.copyRow x y row format).toBuffer
    rw [toBuffer_copyRow]
    exact FrameBuffer.painted_copyRow hx hy hn
  copyRow_eq_copyPixels screen x y colors row format _ hx hy encoded := by
    apply toBuffer_inj
    show (screen.copyRow x y row format).toBuffer = _
    rw [toBuffer_copyRow, FrameBuffer.copyRow_eq_copyPixels hx hy encoded]
    exact (toBuffer_copyPixels screen x y row format).symm

end Screen
end Overlay
