import Overlay.Geometry.Transfer
import Overlay.Proofs.Geometry.Rect

/-!
This module contains the exactness of clipped transfers: although every step of the clipping saturates,
what is left is the set of those source pixels that lie in the area and in the source and whose place,
counted without any limit, lies on the target.
-/

namespace Overlay

namespace Coord

@[simp]
theorem val_zero_add (a : Coord) : (0 + a).val = a.val := by
  have := a.least_le
  have := a.le_greatest
  simp only [val_add, val_ofNat]
  omega

theorem val_displacement {a p u w m : Coord} (hu : 0 ≤ u.val) (hw : u.val + w.val ≤ 2147483647)
    (hm : (u + (p - a)).val < m.val) (h : 0 < (u + (p - a) + w).val) :
    (p - a).val = p.val - a.val := by
  have := m.le_greatest
  rw [val_add] at hm h
  rw [val_add] at h
  rw [val_sub] at *
  omega

/-- One axis of a clipped transfer. The range of length `s` from `a` on goes to `p`, and is cut to the
first `n` places of the source and to the first `m` places of the target; what is left begins at `start`,
has the length `extent`, and goes to `place`. -/
structure Cut (a s p n m start extent place : Int) : Prop where
  lower : ∀ x, start ≤ x ↔ a ≤ x ∧ 0 ≤ x ∧ 0 ≤ x + p - a
  upper : ∀ x, x < start + extent ↔ x < a + s ∧ x < n ∧ x + p - a < m
  extent_pos : 0 < extent
  displaced : place = start + p - a

theorem Cut.source_fits {a s p n m start extent place : Int}
    (h : Cut a s p n m start extent place) : 0 ≤ start ∧ start + extent ≤ n := by
  have first := (h.lower start).mp (Int.le_refl _)
  have last := (h.upper (start + extent - 1)).mp (by omega)
  omega

theorem Cut.target_fits {a s p n m start extent place : Int}
    (h : Cut a s p n m start extent place) : 0 ≤ place ∧ place + extent ≤ m := by
  have first := (h.lower start).mp (Int.le_refl _)
  have last := (h.upper (start + extent - 1)).mp (by omega)
  have := h.displaced
  omega

theorem cut_of_clip {a s p n m u w v l : Coord} (hu : u.val = max a.val 0)
    (hw : w.val = min (a + s).val (0 + n).val - max a.val 0) (w_pos : 0 < w.val)
    (hv : v.val = max (u + (p - a)).val 0)
    (hl : l.val = min (u + (p - a) + w).val (0 + m).val - max (u + (p - a)).val 0)
    (l_pos : 0 < l.val) :
    Cut a.val s.val p.val n.val m.val (v + -(p - a)).val l.val v.val := by
  rw [val_zero_add] at hw hl
  have source_end : u.val + w.val = min (a.val + s.val) n.val := by
    have := n.le_greatest
    have := a.least_le
    rw [val_add] at hw
    omega
  have in_reach : u.val + w.val ≤ 2147483647 := by
    have := n.le_greatest
    omega
  have begins : (u + (p - a)).val < m.val := by omega
  have ends : 0 < (u + (p - a) + w).val := by omega
  have displacement : (p - a).val = p.val - a.val := by
    apply val_displacement (u := u) (w := w) (m := m) <;> omega
  have start : (u + (p - a)).val = u.val + p.val - a.val := by
    have := m.le_greatest
    have := (p - a).least_le
    rw [displacement] at this
    rw [val_add, displacement] at begins ⊢
    omega
  have target_end : v.val + l.val = min (u.val + p.val - a.val + w.val) m.val := by
    have := m.le_greatest
    rw [val_add, start] at hl
    omega
  rw [val_add, start] at ends
  have back : (v + -(p - a)).val = v.val + a.val - p.val := by
    clear hl target_end source_end hw
    rw [val_add, val_neg, displacement]
    omega
  rw [start] at hv
  clear hl hw begins start
  rw [back]
  constructor
  . intro x
    omega
  . intro x
    omega
  . exact l_pos
  . omega

theorem within_displaced {a p u w m : Coord} {x : Int} (hu : 0 ≤ u.val) (hx : u.val ≤ x)
    (hw : x < u.val + w.val) (hm : x + p.val - a.val < m.val) (h0 : 0 ≤ x + p.val - a.val)
    (hx' : x < 2147483647) :
    (u + (p - a)).val ≤ x + p.val - a.val
      ∧ x + p.val - a.val < (u + (p - a)).val + w.val := by
  have := m.le_greatest
  have displacement : (p - a).val = p.val - a.val := by
    rw [val_sub]
    omega
  simp only [val_add, displacement]
  omega

end Coord

namespace Rect

theorem covers_ofSize {size : Point} {x y : Int} :
    (ofSize size).Covers x y ↔ (0 ≤ x ∧ x < size.x.val) ∧ 0 ≤ y ∧ y < size.y.val := by
  simp only [covers_iff, ofSize, Point.origin, Coord.val_zero]
  omega

theorem contains_ofSize {size p : Point} :
    (ofSize size).contains p = true ↔ (ofSize size).Covers p.x.val p.y.val := by
  rw [contains_iff, covers_ofSize]
  simp only [ofSize, right, bottom, Point.origin, Coord.le_def, Coord.lt_def, Coord.val_zero_add]
  rfl

theorem fits_of_inter_ofSize {a : Rect} {size : Point} (h : (a.inter (ofSize size)).isEmpty = false) :
    (0 ≤ (a.inter (ofSize size)).pos.x.val
        ∧ (a.inter (ofSize size)).pos.x.val + (a.inter (ofSize size)).size.x.val ≤ size.x.val)
      ∧ 0 ≤ (a.inter (ofSize size)).pos.y.val
        ∧ (a.inter (ofSize size)).pos.y.val + (a.inter (ofSize size)).size.y.val ≤ size.y.val := by
  have overlap := overlap_inter h
  have left := overlap.left
  have width := overlap.width
  have top := overlap.top
  have height := overlap.height
  simp only [ofSize, right, bottom, Point.origin, Coord.val_zero_add, Coord.val_zero]
    at left width top height ⊢
  constructor <;> omega

structure Inside (r : Rect) (size : Point) : Prop where
  left : 0 ≤ r.pos.x.val
  right : r.pos.x.val + r.size.x.val ≤ size.x.val
  top : 0 ≤ r.pos.y.val
  bottom : r.pos.y.val + r.size.y.val ≤ size.y.val

theorem Inside.contains_iff_covers {r : Rect} {size : Point} (inside : r.Inside size) (p : Point) :
    r.contains p = true ↔ r.Covers p.x.val p.y.val := by
  obtain ⟨left, right, top, bottom⟩ := inside
  have := size.x.le_greatest
  have := size.y.le_greatest
  have := p.x.least_le
  have := p.y.least_le
  simp only [contains_iff, covers_iff, Rect.right, Rect.bottom, Coord.le_def, Coord.lt_def, Coord.val_add]
  omega

end Rect

namespace Transfer

structure Clipped (t : Transfer) (area : Rect) (sourceSize target targetSize : Point) : Prop where
  x : Coord.Cut area.pos.x.val area.size.x.val target.x.val sourceSize.x.val targetSize.x.val
    t.source.pos.x.val t.source.size.x.val t.target.x.val
  y : Coord.Cut area.pos.y.val area.size.y.val target.y.val sourceSize.y.val targetSize.y.val
    t.source.pos.y.val t.source.size.y.val t.target.y.val

variable {area : Rect} {sourceSize target targetSize : Point} {t : Transfer}

theorem clipped_of_clip (h : clip area (.ofSize sourceSize) target (.ofSize targetSize) = some t) :
    t.Clipped area sourceSize target targetSize := by
  unfold clip at h
  dsimp only at h
  split at h
  . contradiction
  . next source_proper =>
    split at h
    . contradiction
    . next landed_proper =>
      rw [Bool.not_eq_true] at source_proper landed_proper
      have source := Rect.overlap_inter source_proper
      have landed := Rect.overlap_inter landed_proper
      injection h with h
      subst h
      constructor
      . exact Coord.cut_of_clip source.left source.width source.width_pos landed.left landed.width
          landed.width_pos
      . exact Coord.cut_of_clip source.top source.height source.height_pos landed.top landed.height
          landed.height_pos

theorem Clipped.columns_fit (h : t.Clipped area sourceSize target targetSize) :
    t.source.pos.x.toNat + t.columns ≤ sourceSize.x.toNat
      ∧ t.target.x.toNat + t.columns ≤ targetSize.x.toNat := by
  have source := h.x.source_fits
  have target := h.x.target_fits
  have := h.x.extent_pos
  simp only [columns, Coord.toNat]
  omega

theorem Clipped.rows_fit (h : t.Clipped area sourceSize target targetSize) :
    t.source.pos.y.toNat + t.rows ≤ sourceSize.y.toNat
      ∧ t.target.y.toNat + t.rows ≤ targetSize.y.toNat := by
  have source := h.y.source_fits
  have target := h.y.target_fits
  have := h.y.extent_pos
  simp only [rows, Coord.toNat]
  omega

theorem rowOrder_lt {i : Nat} (hi : i < t.rows) : t.rowOrder i < t.rows := by
  unfold rowOrder
  split <;> omega

theorem Clipped.covers_source_iff (h : t.Clipped area sourceSize target targetSize) {x y : Int} :
    t.source.Covers x y
      ↔
    area.Covers x y ∧ (Rect.ofSize sourceSize).Covers x y
      ∧ (Rect.ofSize targetSize).Covers (x + target.x.val - area.pos.x.val)
          (y + target.y.val - area.pos.y.val) := by
  rw [Rect.covers_ofSize, Rect.covers_ofSize, Rect.covers_iff, Rect.covers_iff]
  rw [h.x.lower, h.x.upper, h.y.lower, h.y.upper]
  constructor
  . rintro ⟨⟨a, b, c⟩, ⟨d, e, f⟩, ⟨a', b', c'⟩, d', e', f'⟩
    exact ⟨⟨a, d, a', d'⟩, ⟨⟨b, e⟩, b', e'⟩, ⟨c, f⟩, c', f'⟩
  . rintro ⟨⟨a, d, a', d'⟩, ⟨⟨b, e⟩, b', e'⟩, ⟨c, f⟩, c', f'⟩
    exact ⟨⟨a, b, c⟩, ⟨d, e, f⟩, ⟨a', b', c'⟩, d', e', f'⟩

theorem clip_isSome {x y : Int} (in_area : area.Covers x y)
    (in_source : (Rect.ofSize sourceSize).Covers x y)
    (in_target : (Rect.ofSize targetSize).Covers (x + target.x.val - area.pos.x.val)
      (y + target.y.val - area.pos.y.val)) :
    (clip area (.ofSize sourceSize) target (.ofSize targetSize)).isSome = true := by
  obtain ⟨⟨x_nonneg, x_lt⟩, y_nonneg, y_lt⟩ := Rect.covers_ofSize.mp in_source
  obtain ⟨⟨x'_nonneg, x'_lt⟩, y'_nonneg, y'_lt⟩ := Rect.covers_ofSize.mp in_target
  have := sourceSize.x.le_greatest
  have := sourceSize.y.le_greatest
  have := targetSize.x.le_greatest
  have := targetSize.y.le_greatest
  have in_overlap : (area.inter (.ofSize sourceSize)).Covers x y := by
    rw [Rect.covers_inter (by omega) (by omega)]
    exact ⟨in_area, in_source⟩
  have source := Rect.overlap_inter (Rect.not_isEmpty_of_covers in_overlap)
  have moved : ((area.inter (.ofSize sourceSize)).shift (target - area.pos)).Covers
      (x + target.x.val - area.pos.x.val) (y + target.y.val - area.pos.y.val) := by
    have columns := Coord.within_displaced (m := targetSize.x)
      (by rw [source.left]; exact Int.le_max_right ..) in_overlap.left in_overlap.right x'_lt x'_nonneg
      (by omega)
    have rows := Coord.within_displaced (m := targetSize.y)
      (by rw [source.top]; exact Int.le_max_right ..) in_overlap.top in_overlap.bottom y'_lt y'_nonneg
      (by omega)
    exact ⟨columns.1, columns.2, rows.1, rows.2⟩
  have landed : (((area.inter (.ofSize sourceSize)).shift (target - area.pos)).inter
      (.ofSize targetSize)).Covers
      (x + target.x.val - area.pos.x.val) (y + target.y.val - area.pos.y.val) := by
    rw [Rect.covers_inter (by omega) (by omega)]
    exact ⟨moved, in_target⟩
  simp [clip, Rect.not_isEmpty_of_covers in_overlap, Rect.not_isEmpty_of_covers landed]

theorem not_covers_of_clip
    (h : clip area (.ofSize sourceSize) target (.ofSize targetSize) = none) {x y : Int}
    (seen : (Rect.ofSize targetSize).Covers x y) :
    ¬(area.Covers (x - target.x.val + area.pos.x.val) (y - target.y.val + area.pos.y.val)
      ∧ (Rect.ofSize sourceSize).Covers (x - target.x.val + area.pos.x.val)
          (y - target.y.val + area.pos.y.val)) := by
  rintro ⟨in_area, in_source⟩
  have same_x : x - target.x.val + area.pos.x.val + target.x.val - area.pos.x.val = x := by omega
  have same_y : y - target.y.val + area.pos.y.val + target.y.val - area.pos.y.val = y := by omega
  rw [← same_x, ← same_y] at seen
  have some_left := clip_isSome in_area in_source seen
  rw [h] at some_left
  exact absurd some_left Bool.false_ne_true

namespace Clipped

variable (h : t.Clipped area sourceSize target targetSize)
include h

theorem lands_iff {x y : Int} (seen : (Rect.ofSize targetSize).Covers x y) :
    (area.Covers (x - target.x.val + area.pos.x.val) (y - target.y.val + area.pos.y.val)
      ∧ (Rect.ofSize sourceSize).Covers (x - target.x.val + area.pos.x.val)
          (y - target.y.val + area.pos.y.val))
      ↔
    (t.target.x.toNat ≤ x ∧ x < t.target.x.toNat + t.columns)
      ∧ t.target.y.toNat ≤ y ∧ y < t.target.y.toNat + t.rows := by
  have same_x : x - target.x.val + area.pos.x.val + target.x.val - area.pos.x.val = x := by omega
  have same_y : y - target.y.val + area.pos.y.val + target.y.val - area.pos.y.val = y := by omega
  have source := h.covers_source_iff (x := x - target.x.val + area.pos.x.val)
    (y := y - target.y.val + area.pos.y.val)
  rw [same_x, same_y] at source
  have x_displaced := h.x.displaced
  have y_displaced := h.y.displaced
  have x_target := h.x.target_fits
  have y_target := h.y.target_fits
  have x_extent := h.x.extent_pos
  have y_extent := h.y.extent_pos
  simp only [Coord.toNat, columns, rows]
  constructor
  . rintro ⟨in_area, in_source⟩
    obtain ⟨a, b, c, d⟩ := source.mpr ⟨in_area, in_source, seen⟩
    omega
  . intro lands
    have covered : t.source.Covers (x - target.x.val + area.pos.x.val)
        (y - target.y.val + area.pos.y.val) := by
      rw [Rect.covers_iff]
      omega
    obtain ⟨in_area, in_source, _⟩ := source.mp covered
    exact ⟨in_area, in_source⟩

theorem came_from (i j : Nat) :
    ((t.target.x.toNat + j : Nat) : Int) - target.x.val + area.pos.x.val
        = (t.source.pos.x.toNat + j : Nat)
      ∧ ((t.target.y.toNat + i : Nat) : Int) - target.y.val + area.pos.y.val
        = (t.source.pos.y.toNat + i : Nat) := by
  have := h.x.displaced
  have := h.y.displaced
  have := h.x.source_fits
  have := h.y.source_fits
  have := h.x.target_fits
  have := h.y.target_fits
  simp only [Coord.toNat]
  omega

end Clipped

/-- Whether a copy of `area` to `target` takes a point of the source along: it lies in the area and on the
source, and its place, counted without any limit, lies on the target. -/
structure Lands (area : Rect) (sourceSize target targetSize s : Point) : Prop where
  in_area : area.contains s = true
  in_source : (Rect.ofSize sourceSize).contains s = true
  in_target : (Rect.ofSize targetSize).Covers (s.x.val + target.x.val - area.pos.x.val)
    (s.y.val + target.y.val - area.pos.y.val)

theorem lands_iff_covers {s : Point} :
    Lands area sourceSize target targetSize s
      ↔
    area.Covers s.x.val s.y.val ∧ (Rect.ofSize sourceSize).Covers s.x.val s.y.val
      ∧ (Rect.ofSize targetSize).Covers (s.x.val + target.x.val - area.pos.x.val)
          (s.y.val + target.y.val - area.pos.y.val) := by
  have on_source : (Rect.ofSize sourceSize).contains s = true →
      (area.contains s = true ↔ area.Covers s.x.val s.y.val) := by
    intro inside
    obtain ⟨⟨_, x_lt⟩, _, y_lt⟩ := Rect.covers_ofSize.mp (Rect.contains_ofSize.mp inside)
    have := sourceSize.x.le_greatest
    have := sourceSize.y.le_greatest
    exact Rect.contains_iff_covers (by omega) (by omega)
  constructor
  . rintro ⟨in_area, in_source, in_target⟩
    exact ⟨(on_source in_source).mp in_area, Rect.contains_ofSize.mp in_source, in_target⟩
  . rintro ⟨in_area, in_source, in_target⟩
    have in_source := Rect.contains_ofSize.mpr in_source
    exact ⟨(on_source in_source).mpr in_area, in_source, in_target⟩

structure Exact (area : Rect) (sourceSize target targetSize : Point) (t : Transfer) : Prop where
  taken : ∀ s, t.source.contains s = true ↔ Lands area sourceSize target targetSize s
  from_source : t.source.Inside sourceSize
  to_target : (Rect.mk t.target t.source.size).Inside targetSize
  displaced_x : t.target.x.val - t.source.pos.x.val = target.x.val - area.pos.x.val
  displaced_y : t.target.y.val - t.source.pos.y.val = target.y.val - area.pos.y.val

theorem Clipped.toExact (h : t.Clipped area sourceSize target targetSize) :
    t.Exact area sourceSize target targetSize := by
  obtain ⟨left, right⟩ := h.x.source_fits
  obtain ⟨top, bottom⟩ := h.y.source_fits
  obtain ⟨left', right'⟩ := h.x.target_fits
  obtain ⟨top', bottom'⟩ := h.y.target_fits
  have x := h.x.displaced
  have y := h.y.displaced
  have inside : t.source.Inside sourceSize := ⟨left, right, top, bottom⟩
  constructor
  . intro s
    rw [inside.contains_iff_covers, h.covers_source_iff, lands_iff_covers]
  . exact inside
  . exact ⟨left', right', top', bottom'⟩
  . omega
  . omega

/-- Clipping finds nothing to copy just if no point lands on the target. Else it returns just those points that
do, with their displacement, though every step of it saturates. -/
theorem clip_exact (area : Rect) (sourceSize target targetSize : Point) :
    (clip area (.ofSize sourceSize) target (.ofSize targetSize) = none
      ↔ ∀ s, ¬Lands area sourceSize target targetSize s)
    ∧ ∀ t, clip area (.ofSize sourceSize) target (.ofSize targetSize) = some t →
      t.Exact area sourceSize target targetSize := by
  have exact : ∀ t, clip area (.ofSize sourceSize) target (.ofSize targetSize) = some t →
      t.Exact area sourceSize target targetSize := fun _ found => (clipped_of_clip found).toExact
  refine ⟨⟨?_, ?_⟩, exact⟩
  . intro nothing s lands
    obtain ⟨in_area, in_source, in_target⟩ := lands_iff_covers.mp lands
    have something := clip_isSome in_area in_source in_target
    rw [nothing] at something
    cases something
  . intro nothing
    cases found : clip area (.ofSize sourceSize) target (.ofSize targetSize) with
    | none => rfl
    | some t =>
      have clipped := clipped_of_clip found
      have := clipped.x.extent_pos
      have := clipped.y.extent_pos
      have first : t.source.Covers t.source.pos.x.val t.source.pos.y.val := by
        rw [Rect.covers_iff]
        omega
      rw [← (exact t found).from_source.contains_iff_covers, (exact t found).taken] at first
      exact absurd first (nothing _)

example :
    let far := Rect.mk ⟨2147483646, 0⟩ ⟨1, 1⟩
    let size : Point := ⟨.greatest, 1⟩
    clip far (.ofSize size) ⟨-2, 0⟩ (.ofSize size) = none
      ∧ clip far (.ofSize size) ⟨0, 0⟩ (.ofSize size) = some ⟨far, ⟨0, 0⟩⟩ := by decide

end Transfer
end Overlay
