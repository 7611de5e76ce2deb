import Overlay.Proofs.Canvas.Grid
import Overlay.Proofs.Pixel.Layout
import Overlay.Surface.Window

/-!
This module contains the laws of windows as surfaces to paint on. What is read back are the colours that
a window keeps.
-/

namespace Overlay
namespace Window

variable {w : Window}

theorem pixels_writePixel (w : Window) (x y : Nat) (color : Color) :
    (w.writePixel x y color).pixels = w.pixels.setIfInBounds (w.index x y) color := by
  unfold writePixel
  dsimp only
  split
  . rfl
  . next past =>
    rw [Array.setIfInBounds_eq_of_size_le]
    omega

@[simp]
theorem layout_writePixel (w : Window) (x y : Nat) (color : Color) :
    (w.writePixel x y color).shadow.layout = w.shadow.layout := by
  unfold writePixel
  dsimp only
  split
  . exact FrameBuffer.layout_writePixel ..
  . rfl

@[simp]
theorem key_writePixel (w : Window) (x y : Nat) (color : Color) :
    (w.writePixel x y color).key = w.key := by
  unfold writePixel
  dsimp only
  split <;> rfl

theorem val_size_x (w : Window) : w.size.x.val = w.width := Coord.val_wrap w.shadow.valid.width_le

theorem val_size_y (w : Window) : w.size.y.val = w.height := Coord.val_wrap w.shadow.valid.height_le

theorem toNat_size_x (w : Window) : w.size.x.toNat = w.width := w.shadow.valid.toNat_size_x

theorem toNat_size_y (w : Window) : w.size.y.toNat = w.height := w.shadow.valid.toNat_size_y

theorem contains_bounds {p : Point} :
    w.bounds.contains p = true
      ↔
    (0 ≤ p.x.val ∧ p.x.val < w.width) ∧ 0 ≤ p.y.val ∧ p.y.val < w.height :=
  w.shadow.valid.contains_size

instance : Readable Window where
  pixel? := pixel?
  padding? _ _ := none
  Intact _ := True

theorem readable_pixel? (w : Window) (p : Point) : Readable.pixel? w p = w.pixel? p := rfl

open Readable

theorem sameShape {w' : Window} (h : w'.shadow.layout = w.shadow.layout) : SameShape w w' where
  width := congrArg Layout.width h
  height := congrArg Layout.height h
  format := congrArg Layout.format h
  intact := trivial

theorem shape_writePixel (w : Window) (x y : Nat) (color : Color) :
    SameShape w (w.writePixel x y color) := sameShape (layout_writePixel ..)

theorem painted_writePixel {x y : Nat} (hx : x < w.width) (color : Color) :
    Painted (.dot x y color) w (w.writePixel x y color) where
  toSameShape := shape_writePixel w x y color
  pixel p := by
    show (w.writePixel x y color).pixel? p = (w.pixel? p).map _
    have bounds : (w.writePixel x y color).bounds = w.bounds := by
      rw [Window.bounds, size, layout_writePixel, Window.bounds, size]
    have index : (w.writePixel x y color).index p.x.toNat p.y.toNat = w.index p.x.toNat p.y.toNat := by
      rw [index, width, layout_writePixel, index, width]
    unfold pixel?
    rw [bounds, index, pixels_writePixel]
    split
    . next seen => exact Grid.getElem?_set w.size_pixels (contains_bounds.mp seen) hx color
    . rfl
  padding _ := rfl

instance : LawfulCanvas Window where
  width_le w _ := w.shadow.valid.width_le
  height_le w _ := w.shadow.valid.height_le
  isSome_pixel? w p _ := by
    show (w.pixel? p).isSome = w.bounds.contains p
    unfold pixel?
    split
    . next seen =>
      rw [seen]
      exact Grid.isSome_getElem? w.size_pixels (contains_bounds.mp seen)
    . next unseen => simp [unseen]
  shape_writePixel w x y color _ := shape_writePixel w x y color
  shape_copyRow _ x y row format intact :=
    shape_copyPixels (fun w x y color _ => shape_writePixel w x y color) intact x y row format
  painted_writePixel _ _ _ color _ hx _ := painted_writePixel hx color
  painted_copyRow _ _ _ _ _ _ intact hx hy hn :=
    painted_copyPixels (fun _ _ _ color _ hx _ => painted_writePixel hx color) intact hx hy hn
  copyRow_eq_copyPixels _ _ _ _ _ _ _ _ _ _ := rfl

end Window
end Overlay
