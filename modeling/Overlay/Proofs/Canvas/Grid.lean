import Overlay.Proofs.Canvas.Painted

/-!
This module contains pictures that are kept in an array row by row: each pixel has a place of its own
there, so that replacing one colour paints one dot.
-/

namespace Overlay
namespace Grid

theorem strip_fits {width height x y n : Nat} (hx : x + n ≤ width) (hy : y < height) :
    y * width + x + n ≤ width * height := by
  have rows : (y + 1) * width ≤ height * width := Nat.mul_le_mul_right _ hy
  rw [Nat.succ_mul, Nat.mul_comm height] at rows
  omega

theorem index_lt {width height x y : Nat} (hx : x < width) (hy : y < height) :
    y * width + x < width * height := strip_fits (n := 1) hx hy

theorem index_apart {width x y n px py : Nat} (hx : x + n ≤ width) (hpx : px < width)
    (outside : ¬(py = y ∧ x ≤ px ∧ px < x + n)) :
    py * width + px < y * width + x ∨ y * width + x + n ≤ py * width + px := by
  by_cases above : py < y
  . have rows : (py + 1) * width ≤ y * width := Nat.mul_le_mul_right _ above
    rw [Nat.succ_mul] at rows
    omega
  . by_cases below : y < py
    . have rows : (y + 1) * width ≤ py * width := Nat.mul_le_mul_right _ below
      rw [Nat.succ_mul] at rows
      omega
    . obtain rfl : py = y := by omega
      omega

theorem index_inj {width x y x' y' : Nat} (hx : x < width) (hx' : x' < width)
    (h : y * width + x = y' * width + x') : x = x' ∧ y = y' := by
  apply Decidable.byContradiction
  intro other
  have apart : y * width + x < y' * width + x' ∨ y' * width + x' + 1 ≤ y * width + x :=
    index_apart hx' hx (by omega)
  omega

theorem exists_place {width height i : Nat} (hi : i < width * height) :
    ∃ x y, x < width ∧ y < height ∧ i = y * width + x := by
  have width_pos : 0 < width := Nat.pos_of_mul_pos_right (Nat.zero_lt_of_lt hi)
  exact ⟨i % width, i / width, Nat.mod_lt _ width_pos, Nat.div_lt_of_lt_mul hi, (Nat.div_add_mod' ..).symm⟩

variable {pixels : Array Color} {width height : Nat} {p : Point}

theorem isSome_getElem? (size : pixels.size = width * height)
    (seen : (0 ≤ p.x.val ∧ p.x.val < width) ∧ 0 ≤ p.y.val ∧ p.y.val < height) :
    pixels[p.y.toNat * width + p.x.toNat]?.isSome = true := by
  rw [Array.getElem?_eq_getElem, Option.isSome_some]
  rw [size]
  apply index_lt <;> simp only [Coord.toNat] <;> omega

theorem getElem?_set (size : pixels.size = width * height)
    (seen : (0 ≤ p.x.val ∧ p.x.val < width) ∧ 0 ≤ p.y.val ∧ p.y.val < height) {x y : Nat}
    (hx : x < width) (color : Color) :
    (pixels.setIfInBounds (y * width + x) color)[p.y.toNat * width + p.x.toNat]?
      =
    pixels[p.y.toNat * width + p.x.toNat]?.map fun old => (Picture.dot x y color p).getD old := by
  have lt : p.y.toNat * width + p.x.toNat < pixels.size := by
    rw [size]
    apply index_lt <;> simp only [Coord.toNat] <;> omega
  rw [Array.getElem?_setIfInBounds, Array.getElem?_eq_getElem lt, Option.map_some]
  unfold Picture.dot
  by_cases hit : p.x.val = x ∧ p.y.val = y
  . have place : y * width + x = p.y.toNat * width + p.x.toNat := by
      simp only [Coord.toNat, hit.1, hit.2, Int.toNat_natCast]
    rw [if_pos place, if_pos (place ▸ lt), if_pos hit, Option.getD_some]
  . have apart : y * width + x ≠ p.y.toNat * width + p.x.toNat := by
      intro same
      have := index_inj hx (by simp only [Coord.toNat]; omega) same
      simp only [Coord.toNat] at this
      omega
    rw [if_neg apart, if_neg hit, Option.getD_none]

theorem eq_of_points {pixels' : Array Color} (size : pixels.size = width * height)
    (size' : pixels'.size = width * height) (width_le : width ≤ 2147483647) (height_le : height ≤ 2147483647)
    (same : ∀ p : Point, ((0 ≤ p.x.val ∧ p.x.val < width) ∧ 0 ≤ p.y.val ∧ p.y.val < height) →
      pixels[p.y.toNat * width + p.x.toNat]? = pixels'[p.y.toNat * width + p.x.toNat]?) :
    pixels = pixels' := by
  apply Array.ext_getElem?
  intro i
  by_cases hi : i < width * height
  . obtain ⟨x, y, hx, hy, rfl⟩ := exists_place hi
    have x_val : (Coord.clamp x).val = x := Coord.val_clamp_of_fits (by omega)
    have y_val : (Coord.clamp y).val = y := Coord.val_clamp_of_fits (by omega)
    have there := same ⟨.clamp x, .clamp y⟩
    rw [Coord.toNat, Coord.toNat, x_val, y_val, Int.toNat_natCast, Int.toNat_natCast] at there
    apply there
    omega
  . rw [Array.getElem?_eq_none (by omega), Array.getElem?_eq_none (by omega)]

end Grid
end Overlay
