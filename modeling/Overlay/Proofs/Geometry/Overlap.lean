import Overlay.Proofs.Geometry.Rect

/-!
This module contains the laws of overlaps: they are the intersections of the sets of points, on all
coordinates. An overlap is the one rectangle of its points that counts as canonical, so that laws of sets are
equations of rectangles.
-/

namespace Overlay
namespace Rect

variable {r s : Rect}

/-- Whether a rectangle has a positive size, and far edges that lie where its size puts them. -/
structure Proper (r : Rect) : Prop where
  width_pos : 0 < r.size.x.val
  height_pos : 0 < r.size.y.val
  right : r.right.val = r.pos.x.val + r.size.x.val
  bottom : r.bottom.val = r.pos.y.val + r.size.y.val

/-- Whether a rectangle is proper, or empty in the one way that stands for all others. -/
def Canonical (r : Rect) : Prop := r = empty ∨ r.Proper

def last (r : Rect) : Point := ⟨.clamp (r.right.val - 1), .clamp (r.bottom.val - 1)⟩

theorem contains_empty (p : Point) : empty.contains p = false := rfl

namespace Proper

variable (proper : r.Proper)
include proper

theorem val_last : r.last.x.val = r.right.val - 1 ∧ r.last.y.val = r.bottom.val - 1 := by
  have := proper.width_pos
  have := proper.height_pos
  have := proper.right
  have := proper.bottom
  have := r.pos.x.least_le
  have := r.pos.y.least_le
  have := r.right.le_greatest
  have := r.bottom.le_greatest
  simp only [last, Coord.val_clamp]
  omega

theorem contains_pos : r.contains r.pos = true := by
  have := proper.width_pos
  have := proper.height_pos
  have := proper.right
  have := proper.bottom
  simp only [contains_iff, Coord.le_def, Coord.lt_def]
  omega

theorem contains_last : r.contains r.last = true := by
  have := proper.width_pos
  have := proper.height_pos
  have := proper.right
  have := proper.bottom
  simp only [contains_iff, Coord.le_def, Coord.lt_def, proper.val_last]
  omega

theorem edges_le (within : ∀ p, r.contains p = true → s.contains p = true) :
    s.pos.x.val ≤ r.pos.x.val ∧ r.right.val ≤ s.right.val
      ∧ s.pos.y.val ≤ r.pos.y.val ∧ r.bottom.val ≤ s.bottom.val := by
  have first := within r.pos proper.contains_pos
  have last := within r.last proper.contains_last
  simp only [contains_iff, Coord.le_def, Coord.lt_def, proper.val_last] at first last
  omega

theorem ext (proper' : s.Proper) (same : ∀ p, r.contains p = s.contains p) : r = s := by
  have outer := proper.edges_le fun p h => (same p).symm.trans h
  have inner := proper'.edges_le fun p h => (same p).trans h
  have := proper.right
  have := proper.bottom
  have := proper'.right
  have := proper'.bottom
  apply Rect.ext <;> apply Point.ext <;> apply Coord.ext <;> omega

end Proper

theorem Canonical.ext (hr : r.Canonical) (hs : s.Canonical) (same : ∀ p, r.contains p = s.contains p) :
    r = s := by
  cases hr with
  | inl empty_r =>
    cases hs with
    | inl empty_s => rw [empty_r, empty_s]
    | inr proper_s =>
      have outside := (same s.pos).trans proper_s.contains_pos
      rw [empty_r, contains_empty] at outside
      cases outside
  | inr proper_r =>
    cases hs with
    | inl empty_s =>
      have inside := (same r.pos).symm.trans proper_r.contains_pos
      rw [empty_s, contains_empty] at inside
      cases inside
    | inr proper_s => exact proper_r.ext proper_s same

theorem inter_of_isEmpty {a b : Rect} (h : (a.inter b).isEmpty = true) : a.inter b = empty := by
  unfold inter at h ⊢
  split
  . rfl
  . next nonempty =>
    rw [if_neg nonempty] at h
    dsimp only at h ⊢
    split
    . rfl
    . next proper =>
      rw [if_neg proper] at h
      contradiction

theorem proper_of_overlap {a b : Rect} (h : Overlap a b r) : r.Proper := by
  have := h.left
  have := h.width
  have := h.top
  have := h.height
  have := r.pos.x.least_le
  have := r.pos.y.least_le
  have := a.right.le_greatest
  have := a.bottom.le_greatest
  have := h.width_pos
  have := h.height_pos
  constructor
  . exact h.width_pos
  . exact h.height_pos
  . simp only [Rect.right, Coord.val_add] at *
    omega
  . simp only [Rect.bottom, Coord.val_add] at *
    omega

theorem canonical_inter (a b : Rect) : (a.inter b).Canonical := by
  cases h : (a.inter b).isEmpty with
  | true => exact .inl (inter_of_isEmpty h)
  | false => exact .inr (proper_of_overlap (overlap_inter h))

theorem contains_inter_eq (a b : Rect) (p : Point) :
    (a.inter b).contains p = (a.contains p && b.contains p) := by
  rw [Bool.eq_iff_iff, Bool.and_eq_true]
  exact contains_inter

structure Common (a b r : Rect) : Prop where
  contains : ∀ p, r.contains p = true ↔ a.contains p = true ∧ b.contains p = true
  empty : (∀ p, ¬(a.contains p = true ∧ b.contains p = true)) → r = .empty
  proper : (∃ p, a.contains p = true ∧ b.contains p = true) → r.Proper

theorem common_inter (a b : Rect) : Common a b (a.inter b) := by
  constructor
  . intro p
    exact contains_inter
  . intro apart
    exact inter_of_isEmpty (isEmpty_inter.mpr apart)
  . rintro ⟨p, both⟩
    exact proper_of_overlap (overlap_inter (not_isEmpty_of_contains (contains_inter.mpr both)))

/-- The overlap of any two rectangles, degenerate and saturating ones included, consists of just the points
that both contain. It is `Rect.empty` if there are none, and else has a positive size and far edges that do not
saturate. Overlaps may be taken in any order and any grouping. -/
theorem inter_laws :
    (∀ a b, Common a b (a.inter b))
    ∧ (∀ a b : Rect, a.inter b = b.inter a)
    ∧ ∀ a b c : Rect, (a.inter b).inter c = a.inter (b.inter c) := by
  refine ⟨common_inter, ?_, ?_⟩
  . intro a b
    apply (canonical_inter a b).ext (canonical_inter b a)
    intro p
    rw [contains_inter_eq, contains_inter_eq, Bool.and_comm]
  . intro a b c
    apply (canonical_inter (a.inter b) c).ext (canonical_inter a (b.inter c))
    intro p
    simp only [contains_inter_eq, Bool.and_assoc]

example : let r : Rect := ⟨⟨.greatest, 0⟩, ⟨1, 1⟩⟩
    r.isEmpty = false ∧ r.inter r = .empty := by decide

end Rect
end Overlay
