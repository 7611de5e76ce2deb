import Overlay.Proofs.Geometry.Overlap

/-!
This module contains the laws of hulls: as far as what two rectangles span together can be counted by a
coordinate, their hull is the least rectangle around both, so that it does not matter in which order and in
which grouping several rectangles are joined.
-/

namespace Overlay

namespace Coord

theorem hull_exact {a b e f : Coord} (ha : a.val < e.val) (hb : b.val < f.val)
    (span : max e.val f.val - min a.val b.val ≤ 2147483647) :
    0 < (max e f - min a b).val
      ∧ (min a b + (max e f - min a b)).val = (min a b).val + (max e f - min a b).val
      ∧ (min a b).val = min a.val b.val
      ∧ (min a b + (max e f - min a b)).val = max e.val f.val := by
  have length : (max e f - min a b).val = max e.val f.val - min a.val b.val := by
    rw [val_sub, val_max, val_min]
    omega
  have := e.le_greatest
  have := f.le_greatest
  have := a.least_le
  have := b.least_le
  rw [val_add, length, val_min]
  omega

theorem span_le_iff {e f m n k : Int} :
    max e f - min m n ≤ k ↔ (e - m ≤ k ∧ e - n ≤ k) ∧ f - m ≤ k ∧ f - n ≤ k := by
  omega

theorem span_le_of_pairs {e f g l m n k : Int} (first : max e f - min l m ≤ k)
    (second : max e g - min l n ≤ k) (third : max f g - min m n ≤ k) :
    max (max e f) g - min (min l m) n ≤ k := by
  rw [span_le_iff] at second third ⊢
  refine ⟨⟨first, ?_⟩, ?_, second.2.2⟩
  . omega
  . omega

end Coord

namespace Rect

variable {a b c r r' s : Rect}

/-- Whether coordinates can count the columns and the rows that two rectangles span together. -/
structure Spans (a b : Rect) : Prop where
  width : max a.right.val b.right.val - min a.pos.x.val b.pos.x.val ≤ 2147483647
  height : max a.bottom.val b.bottom.val - min a.pos.y.val b.pos.y.val ≤ 2147483647

instance (a b : Rect) : Decidable (Spans a b) :=
  decidable_of_iff
    (max a.right.val b.right.val - min a.pos.x.val b.pos.x.val ≤ 2147483647
      ∧ max a.bottom.val b.bottom.val - min a.pos.y.val b.pos.y.val ≤ 2147483647)
    ⟨fun ⟨w, h⟩ => ⟨w, h⟩, fun ⟨w, h⟩ => ⟨w, h⟩⟩

instance (r : Rect) : Decidable r.Proper :=
  decidable_of_iff
    (0 < r.size.x.val ∧ 0 < r.size.y.val ∧ r.right.val = r.pos.x.val + r.size.x.val
      ∧ r.bottom.val = r.pos.y.val + r.size.y.val)
    ⟨fun ⟨w, h, x, y⟩ => ⟨w, h, x, y⟩, fun ⟨w, h, x, y⟩ => ⟨w, h, x, y⟩⟩

def Encloses (s r : Rect) : Prop := ∀ p, r.contains p = true → s.contains p = true

structure LeastAround (a b r : Rect) : Prop where
  first : r.Encloses a
  second : r.Encloses b
  least : ∀ s : Rect, s.Encloses a → s.Encloses b → s.Encloses r

theorem Encloses.trans (outer : s.Encloses r) (inner : r.Encloses r') : s.Encloses r' :=
  fun p h => outer p (inner p h)

theorem Proper.eq_of_encloses (proper : r.Proper) (proper' : r'.Proper) (outer : r.Encloses r')
    (inner : r'.Encloses r) : r = r' := by
  apply proper.ext proper'
  intro p
  rw [Bool.eq_iff_iff]
  exact ⟨inner p, outer p⟩

theorem Proper.isEmpty_eq (proper : r.Proper) : r.isEmpty = false :=
  isEmpty_eq_false.mpr ⟨proper.width_pos, proper.height_pos⟩

theorem Proper.edges_pos (proper : r.Proper) :
    r.pos.x.val < r.right.val ∧ r.pos.y.val < r.bottom.val := by
  have := proper.width_pos
  have := proper.height_pos
  rw [proper.right, proper.bottom]
  omega

theorem hull_of_proper (proper_a : a.isEmpty = false) (proper_b : b.isEmpty = false) :
    a.hull b = ⟨min a.pos b.pos, max a.corner b.corner - min a.pos b.pos⟩ := by
  rw [hull, proper_a, proper_b, if_neg Bool.false_ne_true, if_neg Bool.false_ne_true]

theorem hull_comm (proper_a : a.isEmpty = false) (proper_b : b.isEmpty = false) :
    a.hull b = b.hull a := by
  have pos : min a.pos b.pos = min b.pos a.pos := by
    apply Point.ext <;> apply Coord.ext <;> simp [Int.min_comm]
  have corner : max a.corner b.corner = max b.corner a.corner := by
    apply Point.ext <;> apply Coord.ext <;> simp [Int.max_comm]
  rw [hull_of_proper proper_a proper_b, hull_of_proper proper_b proper_a, pos, corner]

theorem hull_of_isEmpty (empty : a.isEmpty = true) (proper : b.isEmpty = false) :
    a.hull b = b ∧ b.hull a = b := by
  constructor
  . rw [hull, if_pos empty]
  . rw [hull, proper, if_neg Bool.false_ne_true, if_pos empty]

namespace Spans

structure Edges (a b r : Rect) : Prop extends r.Proper where
  left_eq : r.pos.x.val = min a.pos.x.val b.pos.x.val
  right_eq : r.right.val = max a.right.val b.right.val
  top_eq : r.pos.y.val = min a.pos.y.val b.pos.y.val
  bottom_eq : r.bottom.val = max a.bottom.val b.bottom.val

variable (proper_a : a.Proper) (proper_b : b.Proper) (spans : Spans a b)
include proper_a proper_b spans

theorem edges_hull : Edges a b (a.hull b) := by
  obtain ⟨ends_a, below_a⟩ := proper_a.edges_pos
  obtain ⟨ends_b, below_b⟩ := proper_b.edges_pos
  rw [hull_of_proper proper_a.isEmpty_eq proper_b.isEmpty_eq]
  obtain ⟨width_pos, right, left_eq, right_eq⟩ := Coord.hull_exact ends_a ends_b spans.width
  obtain ⟨height_pos, bottom, top_eq, bottom_eq⟩ := Coord.hull_exact below_a below_b spans.height
  exact ⟨⟨width_pos, height_pos, right, bottom⟩, left_eq, right_eq, top_eq, bottom_eq⟩

theorem leastAround_hull : LeastAround a b (a.hull b) where
  first p h := contains_hull (.inl h) spans.width spans.height
  second p h := contains_hull (.inr h) spans.width spans.height
  least s around_a around_b := by
    obtain ⟨_, left, right, top, bottom⟩ := edges_hull proper_a proper_b spans
    generalize a.hull b = r at *
    obtain ⟨left_a, right_a, top_a, bottom_a⟩ := proper_a.edges_le around_a
    obtain ⟨left_b, right_b, top_b, bottom_b⟩ := proper_b.edges_le around_b
    have left_le : s.pos.x.val ≤ r.pos.x.val := left ▸ Int.le_min.mpr ⟨left_a, left_b⟩
    have right_le : r.right.val ≤ s.right.val := right ▸ Int.max_le.mpr ⟨right_a, right_b⟩
    have top_le : s.pos.y.val ≤ r.pos.y.val := top ▸ Int.le_min.mpr ⟨top_a, top_b⟩
    have bottom_le : r.bottom.val ≤ s.bottom.val := bottom ▸ Int.max_le.mpr ⟨bottom_a, bottom_b⟩
    intro p inside
    obtain ⟨⟨left, right⟩, top, bottom⟩ := contains_iff.mp inside
    rw [contains_iff]
    exact ⟨⟨Int.le_trans left_le left, Int.lt_of_lt_of_le right right_le⟩,
      Int.le_trans top_le top, Int.lt_of_lt_of_le bottom bottom_le⟩

end Spans

theorem Spans.hull (proper_a : a.Proper) (proper_b : b.Proper) (ab : Spans a b) (ac : Spans a c)
    (bc : Spans b c) : Spans (a.hull b) c := by
  obtain ⟨_, left, right, top, bottom⟩ := edges_hull proper_a proper_b ab
  constructor
  . rw [left, right]
    exact Coord.span_le_of_pairs ab.width ac.width bc.width
  . rw [top, bottom]
    exact Coord.span_le_of_pairs ab.height ac.height bc.height

theorem Spans.symm (spans : Spans a b) : Spans b a where
  width := by
    rw [Int.max_comm, Int.min_comm]
    exact spans.width
  height := by
    rw [Int.max_comm, Int.min_comm]
    exact spans.height

theorem hull_assoc (proper_a : a.Proper) (proper_b : b.Proper) (proper_c : c.Proper) (ab : Spans a b)
    (bc : Spans b c) (ac : Spans a c) : (a.hull b).hull c = a.hull (b.hull c) := by
  have proper_ab := (Spans.edges_hull proper_a proper_b ab).toProper
  have proper_bc := (Spans.edges_hull proper_b proper_c bc).toProper
  have spans_left : Spans (a.hull b) c := ab.hull proper_a proper_b ac bc
  have spans_right : Spans a (b.hull c) := (bc.hull proper_b proper_c ab.symm ac.symm).symm
  obtain ⟨a_in_ab, b_in_ab, least_ab⟩ := ab.leastAround_hull proper_a proper_b
  obtain ⟨b_in_bc, c_in_bc, least_bc⟩ := bc.leastAround_hull proper_b proper_c
  obtain ⟨ab_in_left, c_in_left, least_left⟩ := spans_left.leastAround_hull proper_ab proper_c
  obtain ⟨a_in_right, bc_in_right, least_right⟩ := spans_right.leastAround_hull proper_a proper_bc
  -- Both groupings lie around all three, and within all that do so.
  apply (Spans.edges_hull proper_ab proper_c spans_left).toProper.eq_of_encloses
    (Spans.edges_hull proper_a proper_bc spans_right).toProper
  . apply least_right
    . exact ab_in_left.trans a_in_ab
    . exact least_bc _ (ab_in_left.trans b_in_ab) c_in_left
  . apply least_left
    . exact least_ab _ a_in_right (bc_in_right.trans b_in_bc)
    . exact bc_in_right.trans c_in_bc

/-- The hull of two proper rectangles lies around both, and within every rectangle that does so, wherever
coordinates can count what they span. There hulls may be taken in any order and any grouping. An empty
rectangle is left out of a hull, on either side. -/
theorem hull_laws :
    (∀ a b : Rect, a.Proper → b.Proper → Spans a b → LeastAround a b (a.hull b) ∧ a.hull b = b.hull a)
    ∧ (∀ a b c : Rect, a.Proper → b.Proper → c.Proper → Spans a b → Spans b c → Spans a c →
      (a.hull b).hull c = a.hull (b.hull c))
    ∧ ∀ a b : Rect, a.isEmpty = true → b.isEmpty = false → a.hull b = b ∧ b.hull a = b := by
  refine ⟨?_, ?_, ?_⟩
  . intro a b proper_a proper_b spans
    exact ⟨spans.leastAround_hull proper_a proper_b, hull_comm proper_a.isEmpty_eq proper_b.isEmpty_eq⟩
  . intro a b c proper_a proper_b proper_c ab bc ac
    exact hull_assoc proper_a proper_b proper_c ab bc ac
  . intro a b empty proper
    exact hull_of_isEmpty empty proper

theorem hull_laws_widest :
    let a : Rect := ⟨⟨-1073741824, 0⟩, ⟨1, 1⟩⟩
    let b : Rect := ⟨⟨1073741822, -3⟩, ⟨1, 9⟩⟩
    let c : Rect := ⟨⟨0, 5⟩, ⟨3, 2⟩⟩
    (a.Proper ∧ b.Proper ∧ c.Proper ∧ Spans a b ∧ Spans b c ∧ Spans a c)
      ∧ (LeastAround a b (a.hull b) ∧ a.hull b = b.hull a)
      ∧ a.hull b = ⟨⟨-1073741824, -3⟩, ⟨2147483647, 9⟩⟩
      ∧ (a.hull b).hull c = a.hull (b.hull c)
      ∧ empty.hull a = a ∧ a.hull empty = a := by
  intro a b c
  have proper : a.Proper ∧ b.Proper ∧ c.Proper := by decide
  have spans : Spans a b ∧ Spans b c ∧ Spans a c := by decide
  refine ⟨⟨proper.1, proper.2.1, proper.2.2, spans⟩, ?_, by decide, ?_, ?_⟩
  . exact hull_laws.1 a b proper.1 proper.2.1 spans.1
  . exact hull_laws.2.1 a b c proper.1 proper.2.1 proper.2.2 spans.1 spans.2.1 spans.2.2
  . exact hull_laws.2.2 empty a rfl rfl

end Rect
end Overlay
