import Overlay.Proofs.Canvas.Grid
import Overlay.Proofs.Pixel.Layout
import Overlay.Surface.Raster

/-!
This module contains the laws of rasters that have a cell for each of their pixels.
-/

namespace Overlay

namespace Raster

instance : Readable Raster where
  pixel? := pixel?
  padding? _ _ := none
  Intact raster := raster.cells.size = raster.width * raster.height
    ∧ raster.width ≤ Layout.maxDimension ∧ raster.height ≤ Layout.maxDimension

open Readable

structure Full (raster : Raster) : Prop where
  size : raster.cells.size = raster.width * raster.height
  width_le : raster.width ≤ 2147483647
  height_le : raster.height ≤ 2147483647

theorem full_of_intact {raster : Raster} (intact : Intact raster) : raster.Full where
  size := intact.1
  width_le := Nat.le_trans intact.2.1 (by decide)
  height_le := Nat.le_trans intact.2.2 (by decide)

namespace Full

variable {raster : Raster} (full : raster.Full)
include full

theorem contains_bounds {p : Point} :
    (Rect.ofSize ⟨.wrap raster.width, .wrap raster.height⟩).contains p = true
      ↔
    (0 ≤ p.x.val ∧ p.x.val < raster.width) ∧ 0 ≤ p.y.val ∧ p.y.val < raster.height := by
  rw [Rect.contains_ofSize, Rect.covers_ofSize, Coord.val_wrap_of_le full.width_le,
    Coord.val_wrap_of_le full.height_le]

theorem isSome_pixel? (p : Point) :
    (raster.pixel? p).isSome = (Rect.ofSize ⟨.wrap raster.width, .wrap raster.height⟩).contains p := by
  unfold pixel?
  split
  . next seen =>
    rw [seen]
    exact Grid.isSome_getElem? full.size (full.contains_bounds.mp seen)
  . next unseen => simp [unseen]

theorem writePixel (x y : Nat) (color : Color) : (raster.writePixel x y color).Full := by
  unfold Raster.writePixel
  split
  . exact ⟨Array.size_setIfInBounds.trans full.size, full.width_le, full.height_le⟩
  . exact full

theorem pixel?_writePixel {x y : Nat} (hx : x < raster.width) (hy : y < raster.height) (color : Color)
    (p : Point) :
    (raster.writePixel x y color).pixel? p
      =
    (raster.pixel? p).map fun old => (Picture.dot x y color p).getD old := by
  unfold Raster.writePixel
  rw [if_pos ⟨hx, hy⟩]
  unfold pixel?
  dsimp only
  split
  . next seen => exact Grid.getElem?_set full.size (full.contains_bounds.mp seen) hx color
  . rfl

end Full

theorem kept_writePixel (raster : Raster) (x y : Nat) (color : Color) :
    (raster.writePixel x y color).width = raster.width
      ∧ (raster.writePixel x y color).height = raster.height
      ∧ (raster.writePixel x y color).format = raster.format := by
  unfold writePixel
  split <;> exact ⟨rfl, rfl, rfl⟩

theorem shape_writePixel {raster : Raster} (intact : Intact raster) (x y : Nat) (color : Color) :
    SameShape raster (raster.writePixel x y color) := by
  obtain ⟨width, height, format⟩ := kept_writePixel raster x y color
  refine ⟨width, height, format, ((full_of_intact intact).writePixel x y color).size, ?_⟩
  rw [width, height]
  exact intact.2

theorem painted_writePixel {raster : Raster} (intact : Intact raster) {x y : Nat}
    (hx : x < raster.width) (hy : y < raster.height) (color : Color) :
    Painted (.dot x y color) raster (raster.writePixel x y color) where
  toSameShape := shape_writePixel intact x y color
  pixel := (full_of_intact intact).pixel?_writePixel hx hy color
  padding _ := rfl

instance : LawfulCanvas Raster where
  width_le _ intact := intact.2.1
  height_le _ intact := intact.2.2
  isSome_pixel? _ p intact := (full_of_intact intact).isSome_pixel? p
  shape_writePixel _ x y color intact := shape_writePixel intact x y color
  shape_copyRow _ x y row format intact :=
    shape_copyPixels (fun _ x y color intact => shape_writePixel intact x y color) intact x y row format
  painted_writePixel _ _ _ color intact hx hy := painted_writePixel intact hx hy color
  painted_copyRow _ _ _ _ _ _ intact hx hy hn :=
    painted_copyPixels (fun _ _ _ color intact hx hy => painted_writePixel intact hx hy color) intact hx
      hy hn
  copyRow_eq_copyPixels _ _ _ _ _ _ _ _ _ _ := rfl

/-- Rasters that are not limited to the size of the other surfaces. -/
abbrev unlimited : Readable Raster where
  pixel? := pixel?
  padding? _ _ := none
  Intact := Full

theorem plain_unlimited : @PlainCanvas Raster _ unlimited := by
  let _ : Readable Raster := unlimited
  constructor
  . intro raster full
    exact full.width_le
  . intro raster full
    exact full.height_le
  . intro raster p full
    exact full.isSome_pixel? p
  . intro raster x y color full hx hy
    obtain ⟨width, height, format⟩ := kept_writePixel raster x y color
    have shape : SameShape raster (raster.writePixel x y color) :=
      ⟨width, height, format, full.writePixel x y color⟩
    exact ⟨shape, full.pixel?_writePixel hx hy color, fun _ => rfl⟩

end Raster
end Overlay
