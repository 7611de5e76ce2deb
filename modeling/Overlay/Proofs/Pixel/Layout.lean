import Overlay.Pixel.Layout
import Overlay.Proofs.Geometry.Transfer
import Overlay.Proofs.Pixel.Encoding

/-!
This module contains the places of pixels in the memory of a valid layout: each strip of a row has its
place inside of the memory, and apart from all other pixels and from the padding of the rows.
-/

namespace Overlay

theorem Coord.val_wrap_of_le {n : Nat} (h : n ≤ 2147483647) : (Coord.wrap n).val = n := by
  dsimp only [Coord.wrap]
  rw [Int.bmod_eq_of_le] <;> omega

theorem Coord.val_wrap {n : Nat} (h : n ≤ Layout.maxDimension) : (Coord.wrap n).val = n := by
  have : n ≤ 8192 := h
  apply val_wrap_of_le
  omega

namespace Layout

variable {l : Layout}

/-- The addresses between the end of a row and the start of the next one. -/
def Padding (l : Layout) (i : Nat) : Prop := l.width * l.bytesPerPixel ≤ i % l.pitch

instance (l : Layout) (i : Nat) : Decidable (l.Padding i) :=
  inferInstanceAs (Decidable (_ ≤ _))

theorem offset_add (x y i : Nat) : l.offset (x + i) y = l.offset x y + i * l.bytesPerPixel := by
  rw [offset, offset, Nat.add_mul, Nat.add_assoc]

namespace Valid

variable (valid : l.Valid)
include valid

theorem contains_size {p : Point} :
    (Rect.ofSize l.size).contains p = true
      ↔
    (0 ≤ p.x.val ∧ p.x.val < l.width) ∧ 0 ≤ p.y.val ∧ p.y.val < l.height := by
  rw [Rect.contains_ofSize, Rect.covers_ofSize, size, Coord.val_wrap valid.width_le,
    Coord.val_wrap valid.height_le]

theorem exists_point {x y : Nat} (hx : x < l.width) (hy : y < l.height) :
    ∃ p : Point, p.x.val = x ∧ p.y.val = y ∧ (Rect.ofSize l.size).contains p = true := by
  have x_val := Coord.val_wrap (Nat.le_trans (Nat.le_of_lt hx) valid.width_le)
  have y_val := Coord.val_wrap (Nat.le_trans (Nat.le_of_lt hy) valid.height_le)
  refine ⟨⟨.wrap x, .wrap y⟩, x_val, y_val, ?_⟩
  rw [valid.contains_size, x_val, y_val]
  omega

theorem toNat_size_x : l.size.x.toNat = l.width := by
  rw [Coord.toNat, size, Coord.val_wrap valid.width_le, Int.toNat_natCast]

theorem toNat_size_y : l.size.y.toNat = l.height := by
  rw [Coord.toNat, size, Coord.val_wrap valid.height_le, Int.toNat_natCast]

theorem end_le_row {x n : Nat} (hx : x + n ≤ l.width) :
    x * l.bytesPerPixel + n * l.bytesPerPixel ≤ l.pitch := by
  rw [← Nat.add_mul]
  apply Nat.le_trans
  . exact Nat.mul_le_mul_right _ hx
  . exact valid.row_le_pitch

theorem offset_fits {x y n : Nat} (hx : x + n ≤ l.width) (hy : y < l.height) :
    l.offset x y + n * l.bytesPerPixel ≤ l.byteSize := by
  have row := valid.end_le_row hx
  have rows : (y + 1) * l.pitch ≤ l.height * l.pitch := Nat.mul_le_mul_right _ hy
  rw [Nat.succ_mul] at rows
  rw [offset, byteSize, Nat.mul_comm l.pitch]
  omega

theorem offset_before_row {x y y' n : Nat} (hx : x + n ≤ l.width) (hy : y < y') :
    l.offset x y + n * l.bytesPerPixel ≤ y' * l.pitch := by
  have row := valid.end_le_row hx
  have rows : (y + 1) * l.pitch ≤ y' * l.pitch := Nat.mul_le_mul_right _ hy
  rw [Nat.succ_mul] at rows
  rw [offset]
  omega

theorem offset_apart {x y n px py k : Nat} (hx : x + n ≤ l.width) (hpx : px < l.width)
    (outside : ¬(py = y ∧ x ≤ px ∧ px < x + n)) (hk : k < l.bytesPerPixel) :
    l.offset px py + k < l.offset x y
      ∨ l.offset x y + n * l.bytesPerPixel ≤ l.offset px py + k := by
  by_cases above : py < y
  . have := valid.offset_before_row (x := px) (n := 1) hpx above
    simp only [offset] at *
    omega
  . by_cases below : y < py
    . have := valid.offset_before_row hx below
      right
      rw [offset, offset] at *
      omega
    . have same : py = y := by omega
      subst same
      by_cases left : px < x
      . have : (px + 1) * l.bytesPerPixel ≤ x * l.bytesPerPixel := Nat.mul_le_mul_right _ left
        rw [Nat.succ_mul] at this
        rw [offset, offset]
        omega
      . have : (x + n) * l.bytesPerPixel ≤ px * l.bytesPerPixel := by
          apply Nat.mul_le_mul_right
          omega
        rw [Nat.add_mul] at this
        rw [offset, offset]
        omega

theorem padding_apart {x y n i : Nat} (hx : x + n ≤ l.width) (padding : l.Padding i) :
    i < l.offset x y ∨ l.offset x y + n * l.bytesPerPixel ≤ i := by
  apply Decidable.byContradiction
  intro h
  have row : x * l.bytesPerPixel + n * l.bytesPerPixel ≤ l.width * l.bytesPerPixel := by
    rw [← Nat.add_mul]
    exact Nat.mul_le_mul_right _ hx
  have fits := valid.row_le_pitch
  obtain ⟨r, rfl⟩ := Nat.exists_eq_add_of_le (m := y * l.pitch) (n := i) (by rw [offset] at h; omega)
  have inside : r < l.width * l.bytesPerPixel := by
    rw [offset] at h
    omega
  rw [Padding, Nat.mul_comm y, Nat.mul_add_mod, Nat.mod_eq_of_lt (by omega)] at padding
  omega

end Valid
end Layout
end Overlay
