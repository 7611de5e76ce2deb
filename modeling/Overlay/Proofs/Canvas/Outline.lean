import Overlay.Proofs.Canvas.Shapes

/-!
This module contains the border of a block. Its far edges are computed with coordinates that saturate, and an
edge that does so lies on no surface.
-/

namespace Overlay

open Readable

namespace Canvas

theorem within_clip {start extent a m n : Int} (start_eq : start = max a 0)
    (extent_eq : extent = min (max (-2147483648) (min (a + m) 2147483647)) n - max a 0)
    (extent_pos : 0 < extent) (ha : -2147483648 ≤ a) (hn : n ≤ 2147483647) (x : Int) :
    start ≤ x ∧ x < start + extent ↔ (a ≤ x ∧ x < a + m) ∧ 0 ≤ x ∧ x < n := by
  omega

variable {σ : Type} [Canvas σ] [Readable σ] [PlainCanvas σ] {s : σ} (hs : Intact s) (color : Color)

def Border (pos size p : Point) : Prop :=
  (Rect.mk pos size).Covers p.x.val p.y.val
    ∧ (p.x.val = pos.x.val ∨ p.x.val = pos.x.val + size.x.val - 1
      ∨ p.y.val = pos.y.val ∨ p.y.val = pos.y.val + size.y.val - 1)

instance (pos size p : Point) : Decidable (Border pos size p) := inferInstanceAs (Decidable (_ ∧ _))

structure Outlined (s : σ) (pos size : Point) (color : Color) (result : σ × Option Rect) : Prop where
  painted : Painted (.fill (Border pos size) color) s result.1
  clipped : ∀ r, result.2 = some r →
    ∀ x y, r.Covers x y
      ↔ (Rect.mk pos size).Covers x y ∧ (0 ≤ x ∧ x < width s) ∧ 0 ≤ y ∧ y < height s
  missed : result.2 = none
    ↔ ∀ p, (bounds s).contains p = true → ¬(Rect.mk pos size).Covers p.x.val p.y.val
  encloses : ∀ p, (pixel? s p).isSome = true → Border pos size p →
    ∃ r, result.2 = some r ∧ r.contains p = true

include hs

theorem border_iff (pos : Point) {size p : Point} (seen : (pixel? s p).isSome = true) (hx : 0 < size.x.val)
    (hy : 0 < size.y.val) :
    (((p.y = pos.y ∧ min pos.x (pos.x + (size.x - 1)) ≤ p.x ∧ p.x ≤ max pos.x (pos.x + (size.x - 1)))
          ∨ (p.y = pos.y + (size.y - 1)
            ∧ min pos.x (pos.x + (size.x - 1)) ≤ p.x ∧ p.x ≤ max pos.x (pos.x + (size.x - 1))))
        ∨ (p.x = pos.x ∧ min pos.y (pos.y + (size.y - 1)) ≤ p.y ∧ p.y ≤ max pos.y (pos.y + (size.y - 1))))
      ∨ (p.x = pos.x + (size.x - 1)
        ∧ min pos.y (pos.y + (size.y - 1)) ≤ p.y ∧ p.y ≤ max pos.y (pos.y + (size.y - 1)))
      ↔
    Border pos size p := by
  obtain ⟨x1, x1_eq⟩ : ∃ x1, x1 = pos.x + (size.x - 1) := ⟨_, rfl⟩
  obtain ⟨y1, y1_eq⟩ : ∃ y1, y1 = pos.y + (size.y - 1) := ⟨_, rfl⟩
  have x1_val : x1.val = min (pos.x.val + size.x.val - 1) 2147483647 := by
    have := pos.x.least_le
    have := size.x.le_greatest
    rw [x1_eq, Coord.val_add, Coord.val_sub, Coord.val_one]
    omega
  have y1_val : y1.val = min (pos.y.val + size.y.val - 1) 2147483647 := by
    have := pos.y.least_le
    have := size.y.le_greatest
    rw [y1_eq, Coord.val_add, Coord.val_sub, Coord.val_one]
    omega
  rw [← x1_eq, ← y1_eq]
  -- The last coordinate lies on no surface, so that an edge which saturates paints nothing.
  have inside := contains_of_seen hs seen
  have width_le := PlainCanvas.width_le s hs
  have height_le := PlainCanvas.height_le s hs
  have := pos.x.le_greatest
  have := pos.y.le_greatest
  simp only [Border, Rect.covers_mk, Coord.ext_iff, Coord.le_def, Coord.val_min, Coord.val_max]
  omega

theorem painted_outline (pos size : Point) :
    Painted (.fill (Border pos size) color) s (outline s pos size color).1 := by
  unfold outline
  dsimp only
  split
  . next empty =>
    rw [Coord.le_def, Coord.le_def, Coord.val_zero] at empty
    apply Painted.empty hs
    rintro p _ ⟨covers, _⟩
    rw [Rect.covers_mk] at covers
    omega
  . next proper =>
    rw [Coord.le_def, Coord.le_def, Coord.val_zero] at proper
    have top := painted_hline hs color pos.x (pos.x + (size.x - 1)) pos.y
    have bottom := painted_hline top.intact color pos.x (pos.x + (size.x - 1)) (pos.y + (size.y - 1))
    have left := painted_vline bottom.intact color pos.x pos.y (pos.y + (size.y - 1))
    have right := painted_vline left.intact color (pos.x + (size.x - 1)) pos.y (pos.y + (size.y - 1))
    apply (((top.union bottom).union left).union right).reshape
    intro p seen
    exact border_iff hs pos seen (by omega) (by omega)

theorem contains_iff_covers {p : Point} (inside : (bounds s).contains p = true) (rect : Rect) :
    rect.contains p = true ↔ rect.Covers p.x.val p.y.val := by
  have width_le := PlainCanvas.width_le s hs
  have height_le := PlainCanvas.height_le s hs
  rw [contains_bounds hs] at inside
  apply Rect.contains_iff_covers
  . omega
  . omega

theorem covers_visible? {rect r : Rect} (visible : visible? s rect = some r) (x y : Int) :
    r.Covers x y ↔ rect.Covers x y ∧ (0 ≤ x ∧ x < width s) ∧ 0 ≤ y ∧ y < height s := by
  have width_le := PlainCanvas.width_le s hs
  have height_le := PlainCanvas.height_le s hs
  obtain ⟨proper, rfl⟩ := visible?_eq_some.mp visible
  obtain ⟨left, width_eq, width_pos, top, height_eq, height_pos⟩ := Rect.overlap_inter proper
  have origin : (bounds s).pos.x.val = 0 ∧ (bounds s).pos.y.val = 0 := ⟨rfl, rfl⟩
  have right : (bounds s).right.val = width s := by
    rw [Rect.right, Coord.val_add, origin.1, bounds, Rect.ofSize, val_extent_x hs]
    omega
  have bottom : (bounds s).bottom.val = height s := by
    rw [Rect.bottom, Coord.val_add, origin.2, bounds, Rect.ofSize, val_extent_y hs]
    omega
  rw [origin.1] at left width_eq
  rw [origin.2] at top height_eq
  rw [right, Rect.right, Coord.val_add] at width_eq
  rw [bottom, Rect.bottom, Coord.val_add] at height_eq
  have columns := within_clip left width_eq width_pos rect.pos.x.least_le (Int.ofNat_le.mpr width_le) x
  have rows := within_clip top height_eq height_pos rect.pos.y.least_le (Int.ofNat_le.mpr height_le) y
  rw [Rect.covers_iff, Rect.covers_iff, ← and_assoc, columns, rows]
  constructor
  . rintro ⟨⟨⟨from_left, to_right⟩, column⟩, ⟨from_top, to_bottom⟩, row⟩
    exact ⟨⟨from_left, to_right, from_top, to_bottom⟩, column, row⟩
  . rintro ⟨⟨from_left, to_right, from_top, to_bottom⟩, column, row⟩
    exact ⟨⟨⟨from_left, to_right⟩, column⟩, ⟨from_top, to_bottom⟩, row⟩

theorem snd_outline (pos size : Point) :
    (outline s pos size color).2 = visible? s ⟨pos, size⟩ := by
  have bounds := (painted_outline hs color pos size).bounds
  have reported : visible? (outline s pos size color).1 ⟨pos, size⟩ = visible? s ⟨pos, size⟩ := by
    rw [visible?, visible?, bounds]
  rw [← reported]
  unfold outline
  dsimp only
  split
  . next empty =>
    apply Eq.symm
    rw [visible?_eq_none]
    rintro p ⟨hit, _⟩
    have proper := Rect.not_isEmpty_of_contains hit
    rw [Rect.isEmpty, Bool.or_eq_false_iff, decide_eq_false_iff_not, decide_eq_false_iff_not] at proper
    rcases empty with no_width | no_height
    . exact proper.1 no_width
    . exact proper.2 no_height
  . rfl

end Canvas
end Overlay
