import Overlay.Geometry.Rect

/-!
This module contains rectangles as sets of points: which points an overlap and a hull contain. Nearly
everything is shown for one axis first, over the integers, since the two axes do not affect each other.
-/

namespace Overlay

namespace Coord

theorem val_zero : (0 : Coord).val = 0 := rfl

theorem val_one : (1 : Coord).val = 1 := rfl

theorem val_clamp_of_fits {n : Int} (h : -2147483648 ≤ n ∧ n ≤ 2147483647) : (clamp n).val = n := by
  rw [val_clamp]
  omega

theorem val_overlap {a m b n : Coord} (hm : 0 < m.val) (hn : 0 < n.val)
    (h : 0 < (min (a + m) (b + n) - max a b).val) :
    (min (a + m) (b + n) - max a b).val = min (a + m).val (b + n).val - max a.val b.val := by
  have := a.least_le
  have := b.least_le
  have := m.le_greatest
  have := n.le_greatest
  simp only [val_sub, val_min, val_max, val_add] at h ⊢
  omega

theorem overlap_iff {a m b n c : Coord} (hm : 0 < m.val) (hn : 0 < n.val) :
    0 < (min (a + m) (b + n) - max a b).val ∧ max a b ≤ c
        ∧ c < max a b + (min (a + m) (b + n) - max a b)
      ↔
    (a ≤ c ∧ c < a + m) ∧ b ≤ c ∧ c < b + n := by
  have := a.least_le
  have := b.least_le
  have := c.le_greatest
  have := m.le_greatest
  have := n.le_greatest
  simp only [le_def, lt_def, val_sub, val_min, val_max, val_add]
  omega

theorem within_of_overlap {a m b n c start extent : Coord} (hs : start.val = max a.val b.val)
    (he : extent.val = min (a + m).val (b + n).val - max a.val b.val)
    (h : start ≤ c ∧ c < start + extent) : (a ≤ c ∧ c < a + m) ∧ b ≤ c ∧ c < b + n := by
  have := a.least_le
  have := b.least_le
  simp only [le_def, lt_def, val_add] at *
  omega

theorem within_hull_iff {a m b n c : Coord} (h : (a ≤ c ∧ c < a + m) ∨ b ≤ c ∧ c < b + n) :
    min a b ≤ c ∧ c < min a b + (max (a + m) (b + n) - min a b)
      ↔
    c.val - min a.val b.val < 2147483647 := by
  have := c.le_greatest
  have := a.least_le
  have := b.least_le
  have := (a + m).le_greatest
  have := (b + n).le_greatest
  simp only [le_def, lt_def] at h ⊢
  rw [val_min, val_add, val_sub, val_max, val_min]
  generalize (a + m).val = e at *
  generalize (b + n).val = f at *
  omega

end Coord

namespace Rect

/-- Whether a point lies in a rectangle when nothing saturates. -/
structure Covers (r : Rect) (x y : Int) : Prop where
  left : r.pos.x.val ≤ x
  right : x < r.pos.x.val + r.size.x.val
  top : r.pos.y.val ≤ y
  bottom : y < r.pos.y.val + r.size.y.val

instance (r : Rect) (x y : Int) : Decidable (r.Covers x y) :=
  decidable_of_iff
    (r.pos.x.val ≤ x ∧ x < r.pos.x.val + r.size.x.val
      ∧ r.pos.y.val ≤ y ∧ y < r.pos.y.val + r.size.y.val)
    ⟨fun ⟨a, b, c, d⟩ => ⟨a, b, c, d⟩, fun ⟨a, b, c, d⟩ => ⟨a, b, c, d⟩⟩

theorem covers_iff {r : Rect} {x y : Int} :
    r.Covers x y
      ↔
    r.pos.x.val ≤ x ∧ x < r.pos.x.val + r.size.x.val
      ∧ r.pos.y.val ≤ y ∧ y < r.pos.y.val + r.size.y.val :=
  ⟨fun ⟨a, b, c, d⟩ => ⟨a, b, c, d⟩, fun ⟨a, b, c, d⟩ => ⟨a, b, c, d⟩⟩

theorem covers_mk {pos size : Point} {x y : Int} :
    (Rect.mk pos size).Covers x y
      ↔
    pos.x.val ≤ x ∧ x < pos.x.val + size.x.val ∧ pos.y.val ≤ y ∧ y < pos.y.val + size.y.val :=
  covers_iff

theorem covers_shift {r : Rect} {delta : Point} {x y : Int}
    (hx : (r.pos.x + delta.x).val = r.pos.x.val + delta.x.val)
    (hy : (r.pos.y + delta.y).val = r.pos.y.val + delta.y.val) :
    (r.shift delta).Covers x y ↔ r.Covers (x - delta.x.val) (y - delta.y.val) := by
  rw [shift, covers_mk, covers_iff, Point.x_add, Point.y_add, hx, hy]
  omega

theorem isEmpty_eq_false {r : Rect} :
    r.isEmpty = false ↔ 0 < r.size.x.val ∧ 0 < r.size.y.val := by
  simp only [isEmpty, Bool.or_eq_false_iff, decide_eq_false_iff_not, Coord.le_def, Coord.val_ofNat]
  omega

theorem contains_iff {r : Rect} {p : Point} :
    r.contains p = true
      ↔
    (r.pos.x ≤ p.x ∧ p.x < r.right) ∧ r.pos.y ≤ p.y ∧ p.y < r.bottom := by
  have hx : r.pos.x ≤ p.x ∧ p.x < r.right → 0 < r.size.x.val := by
    have := r.pos.x.least_le
    simp only [right, Coord.le_def, Coord.lt_def, Coord.val_add]
    omega
  have hy : r.pos.y ≤ p.y ∧ p.y < r.bottom → 0 < r.size.y.val := by
    have := r.pos.y.least_le
    simp only [bottom, Coord.le_def, Coord.lt_def, Coord.val_add]
    omega
  simp only [contains, Bool.and_eq_true, Bool.not_eq_true', decide_eq_true_eq, isEmpty_eq_false]
  constructor
  . intro h
    exact ⟨⟨h.1.1.1.2, h.1.1.2⟩, h.1.2, h.2⟩
  . intro h
    exact ⟨⟨⟨⟨⟨hx h.1, hy h.2⟩, h.1.1⟩, h.1.2⟩, h.2.1⟩, h.2.2⟩

theorem not_isEmpty_of_contains {r : Rect} {p : Point} (h : r.contains p = true) :
    r.isEmpty = false := by
  simp only [contains, Bool.and_eq_true, Bool.not_eq_true'] at h
  exact h.1.1.1.1

theorem not_isEmpty_of_covers {r : Rect} {x y : Int} (h : r.Covers x y) : r.isEmpty = false := by
  rw [covers_iff] at h
  rw [isEmpty_eq_false]
  omega

theorem contains_iff_covers {r : Rect} {p : Point} (hx : p.x.val < 2147483647)
    (hy : p.y.val < 2147483647) : r.contains p = true ↔ r.Covers p.x.val p.y.val := by
  have := p.x.least_le
  have := p.y.least_le
  simp only [contains_iff, covers_iff, right, bottom, Coord.le_def, Coord.lt_def, Coord.val_add]
  omega

structure Overlap (a b r : Rect) : Prop where
  left : r.pos.x.val = max a.pos.x.val b.pos.x.val
  width : r.size.x.val = min a.right.val b.right.val - max a.pos.x.val b.pos.x.val
  width_pos : 0 < r.size.x.val
  top : r.pos.y.val = max a.pos.y.val b.pos.y.val
  height : r.size.y.val = min a.bottom.val b.bottom.val - max a.pos.y.val b.pos.y.val
  height_pos : 0 < r.size.y.val

theorem overlap_inter {a b : Rect} (h : (a.inter b).isEmpty = false) : Overlap a b (a.inter b) := by
  unfold inter at h ⊢
  by_cases hab : (a.isEmpty || b.isEmpty) = true
  . rw [if_pos hab] at h
    contradiction
  . rw [if_neg hab] at h ⊢
    rw [Bool.not_eq_true, Bool.or_eq_false_iff, isEmpty_eq_false, isEmpty_eq_false] at hab
    dsimp only at h ⊢
    split at h
    . contradiction
    . next proper =>
      rw [if_neg proper]
      rw [isEmpty_eq_false] at h
      constructor
      . exact Coord.val_max ..
      . exact Coord.val_overlap hab.1.1 hab.2.1 h.1
      . exact h.1
      . exact Coord.val_max ..
      . exact Coord.val_overlap hab.1.2 hab.2.2 h.2
      . exact h.2

theorem contains_inter {a b : Rect} {p : Point} :
    (a.inter b).contains p = true ↔ a.contains p = true ∧ b.contains p = true := by
  constructor
  . intro h
    have overlap := overlap_inter (not_isEmpty_of_contains h)
    rw [contains_iff] at h
    have x := Coord.within_of_overlap overlap.left overlap.width h.1
    have y := Coord.within_of_overlap overlap.top overlap.height h.2
    rw [contains_iff, contains_iff]
    exact ⟨⟨x.1, y.1⟩, x.2, y.2⟩
  . rintro ⟨ha, hb⟩
    obtain ⟨ax, ay⟩ := isEmpty_eq_false.mp (not_isEmpty_of_contains ha)
    obtain ⟨bx, by_⟩ := isEmpty_eq_false.mp (not_isEmpty_of_contains hb)
    rw [contains_iff] at ha hb
    obtain ⟨x, hx⟩ := (Coord.overlap_iff ax bx).mpr ⟨ha.1, hb.1⟩
    obtain ⟨y, hy⟩ := (Coord.overlap_iff ay by_).mpr ⟨ha.2, hb.2⟩
    have proper : (Rect.mk (max a.pos b.pos) (min a.corner b.corner - max a.pos b.pos)).isEmpty
        = false := isEmpty_eq_false.mpr ⟨x, y⟩
    have nonempty : (a.isEmpty || b.isEmpty) = false := by
      rw [Bool.or_eq_false_iff, isEmpty_eq_false, isEmpty_eq_false]
      exact ⟨⟨ax, ay⟩, bx, by_⟩
    simp only [inter, nonempty, proper, Bool.false_eq_true, if_false]
    rw [contains_iff]
    exact ⟨hx, hy⟩

theorem isEmpty_inter {a b : Rect} :
    (a.inter b).isEmpty = true ↔ ∀ p, ¬(a.contains p = true ∧ b.contains p = true) := by
  constructor
  . intro empty p both
    rw [not_isEmpty_of_contains (contains_inter.mpr both)] at empty
    cases empty
  . intro apart
    rw [← Bool.not_eq_false]
    intro proper
    have overlap := overlap_inter proper
    have := overlap.left
    have := overlap.width
    have := overlap.width_pos
    have := overlap.top
    have := overlap.height
    have := overlap.height_pos
    have := a.right.le_greatest
    have := a.bottom.le_greatest
    -- The far edges of an overlap are those of one of its parts, so that they do not saturate.
    apply apart (a.inter b).pos
    rw [← contains_inter, contains_iff_covers (by omega) (by omega), covers_iff]
    omega

theorem covers_inter {a b : Rect} {x y : Int} (hx : -2147483648 ≤ x ∧ x < 2147483647)
    (hy : -2147483648 ≤ y ∧ y < 2147483647) :
    (a.inter b).Covers x y ↔ a.Covers x y ∧ b.Covers x y := by
  let p : Point := ⟨.clamp x, .clamp y⟩
  have px : p.x.val = x := Coord.val_clamp_of_fits (by omega)
  have py : p.y.val = y := Coord.val_clamp_of_fits (by omega)
  have whole : ∀ r : Rect, r.contains p = true ↔ r.Covers x y := by
    intro r
    rw [contains_iff_covers (by omega) (by omega), px, py]
  rw [← whole, ← whole, ← whole, contains_inter]

theorem contains_hull_iff {a b : Rect} {p : Point} (proper_a : a.isEmpty = false)
    (proper_b : b.isEmpty = false) (h : a.contains p = true ∨ b.contains p = true) :
    (a.hull b).contains p = true
      ↔
    p.x.val - min a.pos.x.val b.pos.x.val < 2147483647
      ∧ p.y.val - min a.pos.y.val b.pos.y.val < 2147483647 := by
  rw [contains_iff, contains_iff] at h
  have columns := Coord.within_hull_iff (h.imp (fun h => h.1) (fun h => h.1))
  have rows := Coord.within_hull_iff (h.imp (fun h => h.2) (fun h => h.2))
  unfold hull
  rw [proper_a, proper_b, if_neg Bool.false_ne_true, if_neg Bool.false_ne_true, contains_iff]
  exact and_congr columns rows

theorem contains_hull {a b : Rect} {p : Point} (h : a.contains p = true ∨ b.contains p = true)
    (span_x : max a.right.val b.right.val - min a.pos.x.val b.pos.x.val ≤ 2147483647)
    (span_y : max a.bottom.val b.bottom.val - min a.pos.y.val b.pos.y.val ≤ 2147483647) :
    (a.hull b).contains p = true := by
  cases empty_a : a.isEmpty with
  | true =>
    cases h with
    | inl h =>
      rw [not_isEmpty_of_contains h] at empty_a
      cases empty_a
    | inr h =>
      rw [hull, if_pos empty_a]
      exact h
  | false =>
    cases empty_b : b.isEmpty with
    | true =>
      cases h with
      | inl h =>
        rw [hull, empty_a, if_neg Bool.false_ne_true, if_pos empty_b]
        exact h
      | inr h =>
        rw [not_isEmpty_of_contains h] at empty_b
        cases empty_b
    | false =>
      rw [contains_hull_iff empty_a empty_b h]
      rw [contains_iff, contains_iff] at h
      simp only [Coord.le_def, Coord.lt_def] at h
      constructor
      . omega
      . omega

end Rect
end Overlay
