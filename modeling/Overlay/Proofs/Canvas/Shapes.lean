import Overlay.Canvas.Shapes
import Overlay.Proofs.Canvas.Plot

/-!
This module contains the points that each shape paints. All of them are given by the coordinates that a shape
was called with, as if the surface had no end; what lies outside of it is not there to be read. A shape stores
the pixels of one block in their order, so that it leaves the same surface as if its points were rendered.
-/

namespace Overlay

open Readable

namespace Picture

def fill (shape : Point → Prop) [DecidablePred shape] (color : Color) : Picture :=
  fun p => if shape p then some color else none

theorem fill_or (shape shape' : Point → Prop) [DecidablePred shape] [DecidablePred shape'] (color : Color)
    (p : Point) :
    (fill shape' color p).or (fill shape color p) = fill (fun p => shape p ∨ shape' p) color p := by
  unfold fill
  by_cases first : shape p
  . by_cases second : shape' p
    . rw [if_pos first, if_pos second, if_pos (.inl first), Option.or_self]
    . rw [if_pos first, if_neg second, if_pos (.inl first), Option.none_or]
  . by_cases second : shape' p
    . rw [if_neg first, if_pos second, if_pos (.inr second), Option.or_none]
    . rw [if_neg first, if_neg second, if_neg (not_or.mpr ⟨first, second⟩), Option.or_none]

end Picture

section

variable {σ : Type} [Canvas σ] [Readable σ] {s s' s'' : σ} {shape shape' : Point → Prop}
  [DecidablePred shape] [DecidablePred shape'] {color : Color}

namespace Readable.Painted

theorem reshape (h : Painted (.fill shape color) s s')
    (same : ∀ p, (pixel? s p).isSome = true → (shape p ↔ shape' p)) :
    Painted (.fill shape' color) s s' := by
  apply h.congr
  intro p seen
  simp only [Picture.fill, same p seen]

theorem union (h : Painted (.fill shape color) s s') (h' : Painted (.fill shape' color) s' s'') :
    Painted (.fill (fun p => shape p ∨ shape' p) color) s s'' := by
  apply (h.trans h').congr
  intro p _
  exact Picture.fill_or shape shape' color p

theorem empty (hs : Intact s) (none_hit : ∀ p, (pixel? s p).isSome = true → ¬shape p) :
    Painted (.fill shape color) s s := by
  apply (idle hs).congr
  intro p seen
  exact (if_neg (none_hit p seen)).symm

end Readable.Painted

end

namespace Canvas

section

variable {σ : Type} [Canvas σ] {s : σ} {rect r : Rect}

theorem visible?_eq_some :
    visible? s rect = some r ↔ (rect.inter (bounds s)).isEmpty = false ∧ rect.inter (bounds s) = r := by
  unfold visible?
  dsimp only
  split
  . next empty => simp [empty]
  . next proper => simp [proper]

theorem contains_visible? (visible : visible? s rect = some r) {p : Point} :
    r.contains p = true ↔ rect.contains p = true ∧ (bounds s).contains p = true := by
  obtain ⟨_, rfl⟩ := visible?_eq_some.mp visible
  exact Rect.contains_inter

theorem visible?_eq_none :
    visible? s rect = none ↔ ∀ p, ¬(rect.contains p = true ∧ (bounds s).contains p = true) := by
  rw [← Rect.isEmpty_inter]
  unfold visible?
  dsimp only
  split
  . next empty => exact iff_of_true rfl empty
  . next proper => exact iff_of_false nofun proper

theorem fillRowSpan_of_clipRowSpan {row x0 x1 : Coord} {span : RowSpan}
    (clip : clipRowSpan s row x0 x1 = some span) (color : Color) :
    fillRowSpan s row x0 x1 color
      =
    plotBlock s span.first span.row (span.last + 1 - span.first) 1 (fun _ _ => some color) := by
  rw [fillRowSpan, clip]
  rfl

theorem snd_fillBlock (s : σ) (pos size : Point) (color : Color) :
    (fillBlock s pos size color).2 = visible? s ⟨pos, size⟩ := by
  unfold fillBlock
  split
  . next missed => exact missed.symm
  . next hit => exact hit.symm

end

variable {σ : Type} [Canvas σ] [Readable σ] [PlainCanvas σ] {s : σ} (hs : Intact s) (color : Color)
include hs

section

variable {shape : Point → Prop} [DecidablePred shape]

theorem eq_render_of_apart (apart : ∀ p, (pixel? s p).isSome = true → ¬shape p) :
    s = render s (.fill shape color) := by
  apply Eq.symm
  apply plotAll_idle
  intro x y hx hy
  exact if_neg (apart _ (seen_clamp hs hx hy))

theorem plotBlock_eq_render {x y columns rows : Nat} (hx : x + columns ≤ width s) (hy : y + rows ≤ height s)
    (same : ∀ p, (pixel? s p).isSome = true →
      (shape p ↔ (x ≤ p.x.val ∧ p.x.val < x + columns) ∧ y ≤ p.y.val ∧ p.y.val < y + rows)) :
    plotBlock s x y columns rows (fun _ _ => some color) = render s (.fill shape color) := by
  let inside (x' y' : Nat) : Prop := (x ≤ x' ∧ x' < x + columns) ∧ y ≤ y' ∧ y' < y + rows
  let rule (x' y' : Nat) : Option Color := if inside x' y' then some color else none
  have width_le := PlainCanvas.width_le s hs
  have height_le := PlainCanvas.height_le s hs
  have block : render s (.fill shape color) = plotAll s rule := by
    apply plotAll_congr
    intro x' y' hx' hy'
    have hit := same _ (seen_clamp hs hx' hy')
    rw [Coord.val_clamp_of_fits (by omega), Coord.val_clamp_of_fits (by omega)] at hit
    simp only [Picture.fill, rule, inside, hit]
    norm_cast
  rw [block, plotAll_eq_plotBlock hx hy]
  . apply plotBlock_congr
    intro i j hi hj
    exact (if_pos ⟨⟨by omega, by omega⟩, by omega, by omega⟩).symm
  . intro x' y' _ _ inked
    apply Decidable.byContradiction
    intro out
    have blank : rule x' y' = none := if_neg out
    rw [blank] at inked
    cases inked

end

theorem put_eq_render (q : Point) : put s q color = render s (.fill (· = q) color) := by
  unfold put
  dsimp only
  simp only [Coord.lt_def, Coord.le_def, val_extent_x hs, val_extent_y hs, Coord.val_zero]
  split
  . next outside =>
    apply eq_render_of_apart hs
    rintro _ seen rfl
    have inside := contains_of_seen hs seen
    omega
  . next inside =>
    have x_val : (q.x.toNat : Int) = q.x.val := Int.toNat_of_nonneg (by omega)
    have y_val : (q.y.toNat : Int) = q.y.val := Int.toNat_of_nonneg (by omega)
    show plotBlock s q.x.toNat q.y.toNat 1 1 (fun _ _ => some color) = _
    apply plotBlock_eq_render hs color (by omega) (by omega)
    intro p _
    rw [x_val, y_val, Point.ext_iff, Coord.ext_iff, Coord.ext_iff]
    omega

structure Clips (s : σ) (row x0 x1 : Coord) (span : RowSpan) : Prop where
  row : (span.row : Int) = row.val
  row_lt : span.row < height s
  first : (span.first : Int) = max x0.val 0
  last : (span.last : Int) = min x1.val (width s - 1)
  ordered : span.first ≤ span.last

theorem clips_of_clipRowSpan {row x0 x1 : Coord} {span : RowSpan}
    (clip : clipRowSpan s row x0 x1 = some span) : Clips s row x0 x1 span := by
  have width_le := PlainCanvas.width_le s hs
  unfold clipRowSpan at clip
  dsimp only at clip
  split at clip
  . cases clip
  . next row_seen =>
    split at clip
    . cases clip
    . next ordered =>
      cases clip
      simp only [Coord.lt_def, Coord.le_def, Coord.val_max, Coord.val_min, Coord.val_sub, val_extent_x hs,
        val_extent_y hs, Coord.val_zero, Coord.val_one] at row_seen ordered
      constructor <;>
        simp only [Coord.toNat, Coord.val_max, Coord.val_min, Coord.val_sub, val_extent_x hs, Coord.val_zero,
          Coord.val_one] <;>
        omega

theorem apart_of_clipRowSpan {row x0 x1 : Coord} (clip : clipRowSpan s row x0 x1 = none) {p : Point}
    (seen : (pixel? s p).isSome = true) : ¬(p.y = row ∧ x0 ≤ p.x ∧ p.x ≤ x1) := by
  have inside := contains_of_seen hs seen
  have width_le := PlainCanvas.width_le s hs
  rintro ⟨rfl, left, right⟩
  unfold clipRowSpan at clip
  dsimp only at clip
  simp only [Coord.lt_def, Coord.le_def, Coord.val_max, Coord.val_min, Coord.val_sub, val_extent_x hs,
    val_extent_y hs, Coord.val_zero, Coord.val_one] at clip left right
  rw [if_neg (by omega), if_neg (by omega)] at clip
  cases clip

theorem fillRowSpan_eq_render (row x0 x1 : Coord) :
    fillRowSpan s row x0 x1 color
      =
    render s (.fill (fun p => p.y = row ∧ x0 ≤ p.x ∧ p.x ≤ x1) color) := by
  cases clip : clipRowSpan s row x0 x1 with
  | none =>
    rw [fillRowSpan, clip]
    apply eq_render_of_apart hs
    intro p seen
    exact apart_of_clipRowSpan hs clip seen
  | some span =>
    obtain ⟨row_val, row_lt, first, last, ordered⟩ := clips_of_clipRowSpan hs clip
    rw [fillRowSpan_of_clipRowSpan clip]
    apply plotBlock_eq_render hs color (by omega) (by omega)
    intro p seen
    have inside := contains_of_seen hs seen
    rw [Coord.ext_iff, Coord.le_def, Coord.le_def]
    omega

theorem hline_eq_render (x0 x1 y : Coord) :
    hline s x0 x1 y color
      =
    render s (.fill (fun p => p.y = y ∧ min x0 x1 ≤ p.x ∧ p.x ≤ max x0 x1) color) :=
  fillRowSpan_eq_render hs color y (min x0 x1) (max x0 x1)

theorem vline_eq_render (x y0 y1 : Coord) :
    vline s x y0 y1 color
      =
    render s (.fill (fun p => p.x = x ∧ min y0 y1 ≤ p.y ∧ p.y ≤ max y0 y1) color) := by
  have height_le := PlainCanvas.height_le s hs
  unfold vline
  dsimp only
  split
  . next outside =>
    rw [Coord.lt_def, Coord.le_def, val_extent_x hs, Coord.val_zero] at outside
    apply eq_render_of_apart hs
    rintro p seen ⟨rfl, _⟩
    have inside := contains_of_seen hs seen
    omega
  . next column =>
    rw [Coord.lt_def, Coord.le_def, val_extent_x hs, Coord.val_zero] at column
    have column_val : (x.toNat : Int) = x.val := Int.toNat_of_nonneg (by omega)
    obtain ⟨first, first_eq⟩ : ∃ first, first = max (min y0 y1) 0 := ⟨_, rfl⟩
    obtain ⟨last, last_eq⟩ : ∃ last, last = min (max y0 y1) ((extent s).y - 1) := ⟨_, rfl⟩
    have first_val : first.val = max (min y0.val y1.val) 0 := by
      rw [first_eq, Coord.val_max, Coord.val_min, Coord.val_zero]
    have last_val : last.val = min (max y0.val y1.val) (height s - 1) := by
      rw [last_eq, Coord.val_min, Coord.val_max, Coord.val_sub, val_extent_y hs, Coord.val_one]
      omega
    have first_nat : (first.toNat : Int) = first.val := Int.toNat_of_nonneg (by omega)
    rw [← first_eq, ← last_eq]
    by_cases crossing : first.val ≤ last.val
    . show plotBlock s x.toNat first.toNat 1 (last.val + 1 - first.val).toNat (fun _ _ => some color) = _
      apply plotBlock_eq_render hs color (by omega) (by omega)
      intro p seen
      have inside := contains_of_seen hs seen
      rw [Coord.ext_iff, Coord.le_def, Coord.le_def, Coord.val_min, Coord.val_max]
      omega
    . rw [show (last.val + 1 - first.val).toNat = 0 by omega]
      apply eq_render_of_apart hs
      intro p seen
      have inside := contains_of_seen hs seen
      rw [Coord.le_def, Coord.le_def, Coord.val_min, Coord.val_max]
      omega

theorem clipRowSpan_of_inside {row x0 x1 : Coord} (hrow : 0 ≤ row.val ∧ row.val < height s)
    (first : 0 ≤ x0.val) (last : x1.val < width s) (ordered : x0.val ≤ x1.val) :
    clipRowSpan s row x0 x1 = some ⟨row.toNat, x0.toNat, x1.toNat⟩ := by
  have width_le := PlainCanvas.width_le s hs
  have from_left : max x0 0 = x0 := by
    rw [Coord.ext_iff, Coord.val_max, Coord.val_zero]
    omega
  have to_right : min x1 ((extent s).x - 1) = x1 := by
    rw [Coord.ext_iff, Coord.val_min, Coord.val_sub, val_extent_x hs, Coord.val_one]
    omega
  unfold clipRowSpan
  dsimp only
  simp only [from_left, to_right, Coord.lt_def, Coord.le_def, Coord.val_zero, val_extent_y hs]
  rw [if_neg (by omega), if_neg (by omega)]

theorem fold_fillRowSpan {top x0 x1 : Coord} {rows : Nat} (first : 0 ≤ x0.val) (last : x1.val < width s)
    (ordered : x0.val ≤ x1.val) (above : 0 ≤ top.val) (below : top.val + rows ≤ height s) :
    Nat.fold rows (fun i _ s => fillRowSpan s (.clamp (top.val + i)) x0 x1 color) s
      =
    plotBlock s x0.toNat top.toNat (x1.toNat + 1 - x0.toNat) rows (fun _ _ => some color) := by
  have height_le := PlainCanvas.height_le s hs
  apply Loop.congr (I := SameShape s)
  . exact (Painted.idle hs).toSameShape
  . intro i _ s' same
    apply same.trans
    rw [fillRowSpan_eq_render same.intact]
    exact (painted_render same.intact _).toSameShape
  . intro i hi s' same
    have row_val : (Coord.clamp (top.val + i)).val = top.val + i := Coord.val_clamp_of_fits (by omega)
    have row_nat : (Coord.clamp (top.val + i)).toNat = top.toNat + i := by
      rw [Coord.toNat, row_val, Coord.toNat]
      omega
    have clip : clipRowSpan s' (.clamp (top.val + i)) x0 x1
        = some ⟨(Coord.clamp (top.val + i)).toNat, x0.toNat, x1.toNat⟩ := by
      apply clipRowSpan_of_inside same.intact _ first _ ordered
      . rw [row_val, same.height]
        omega
      . rw [same.width]
        exact last
    rw [fillRowSpan_of_clipRowSpan clip, row_nat]
    rfl

theorem fillRect_eq_render (rect : Rect) :
    fillRect s rect color = render s (.fill (fun p => rect.contains p = true) color) := by
  obtain ⟨r, clipped⟩ : ∃ r, r = rect.inter (bounds s) := ⟨_, rfl⟩
  have contains (p : Point) (seen : (pixel? s p).isSome = true) :
      rect.contains p = true ↔ r.contains p = true := by
    rw [PlainCanvas.isSome_pixel? s p hs] at seen
    rw [clipped, Rect.contains_inter]
    exact (and_iff_left seen).symm
  unfold fillRect
  dsimp only
  rw [← clipped]
  split
  . next empty =>
    apply eq_render_of_apart hs
    intro p seen hit
    rw [Rect.not_isEmpty_of_contains ((contains p seen).mp hit)] at empty
    cases empty
  . next proper =>
    rw [Bool.not_eq_true] at proper
    have whole : Rect.ofSize (extent s) = bounds s := rfl
    have fits := Rect.fits_of_inter_ofSize (clipped ▸ proper)
    rw [whole, ← clipped, val_extent_x hs, val_extent_y hs] at fits
    obtain ⟨⟨left, to_right⟩, top, to_bottom⟩ := fits
    obtain ⟨width_pos, height_pos⟩ := Rect.isEmpty_eq_false.mp proper
    have width_le := PlainCanvas.width_le s hs
    have height_le := PlainCanvas.height_le s hs
    have right_val : r.right.val = r.pos.x.val + r.size.x.val := by
      rw [Rect.right, Coord.val_add]
      omega
    have last_val : (r.right - 1).val = r.pos.x.val + r.size.x.val - 1 := by
      rw [Coord.val_sub, right_val, Coord.val_one]
      omega
    have bottom_val : r.bottom.val = r.pos.y.val + r.size.y.val := by
      rw [Rect.bottom, Coord.val_add]
      omega
    rw [fold_fillRowSpan hs color left (by omega) (by omega) top (by omega)]
    have left_nat : (r.pos.x.toNat : Int) = r.pos.x.val := Int.toNat_of_nonneg left
    have last_nat : ((r.right - 1).toNat : Int) = (r.right - 1).val := Int.toNat_of_nonneg (by omega)
    have top_nat : (r.pos.y.toNat : Int) = r.pos.y.val := Int.toNat_of_nonneg top
    apply plotBlock_eq_render hs color (by omega) (by omega)
    intro p seen
    rw [contains p seen, Rect.contains_iff, Coord.le_def, Coord.lt_def, Coord.le_def, Coord.lt_def]
    omega

theorem fillBlock_eq_render (pos size : Point) :
    (fillBlock s pos size color).1
      =
    render s (.fill (fun p => (Rect.mk pos size).contains p = true) color) := by
  unfold fillBlock
  cases visible : visible? s ⟨pos, size⟩ with
  | none =>
    apply eq_render_of_apart hs
    intro p seen hit
    rw [PlainCanvas.isSome_pixel? s p hs] at seen
    exact visible?_eq_none.mp visible p ⟨hit, seen⟩
  | some damage =>
    dsimp only
    rw [fillRect_eq_render hs]
    apply render_congr hs
    intro p seen
    rw [PlainCanvas.isSome_pixel? s p hs] at seen
    simp only [Picture.fill, contains_visible? visible, seen, and_true]

theorem painted_put (q : Point) : Painted (.fill (· = q) color) s (put s q color) := by
  rw [put_eq_render hs]
  exact painted_render hs _

theorem painted_fillRowSpan (row x0 x1 : Coord) :
    Painted (.fill (fun p => p.y = row ∧ x0 ≤ p.x ∧ p.x ≤ x1) color) s
      (fillRowSpan s row x0 x1 color) := by
  rw [fillRowSpan_eq_render hs]
  exact painted_render hs _

theorem painted_hline (x0 x1 y : Coord) :
    Painted (.fill (fun p => p.y = y ∧ min x0 x1 ≤ p.x ∧ p.x ≤ max x0 x1) color) s
      (hline s x0 x1 y color) := by
  rw [hline_eq_render hs]
  exact painted_render hs _

theorem painted_vline (x y0 y1 : Coord) :
    Painted (.fill (fun p => p.x = x ∧ min y0 y1 ≤ p.y ∧ p.y ≤ max y0 y1) color) s
      (vline s x y0 y1 color) := by
  rw [vline_eq_render hs]
  exact painted_render hs _

theorem painted_fillRect (rect : Rect) :
    Painted (.fill (fun p => rect.contains p = true) color) s (fillRect s rect color) := by
  rw [fillRect_eq_render hs]
  exact painted_render hs _

theorem painted_fillBlock (pos size : Point) :
    Painted (.fill (fun p => (Rect.mk pos size).contains p = true) color) s
      (fillBlock s pos size color).1 := by
  rw [fillBlock_eq_render hs]
  exact painted_render hs _

structure PaintsShapes (s : σ) (color : Color) : Prop where
  seen : ∀ p, (pixel? s p).isSome = (bounds s).contains p
  put : ∀ q, Painted (.fill (· = q) color) s (put s q color)
  span : ∀ y x0 x1, Painted (.fill (fun p => p.y = y ∧ x0 ≤ p.x ∧ p.x ≤ x1) color) s
    (fillRowSpan s y x0 x1 color)
  hline : ∀ x0 x1 y, Painted (.fill (fun p => p.y = y ∧ min x0 x1 ≤ p.x ∧ p.x ≤ max x0 x1) color) s
    (hline s x0 x1 y color)
  vline : ∀ x y0 y1, Painted (.fill (fun p => p.x = x ∧ min y0 y1 ≤ p.y ∧ p.y ≤ max y0 y1) color) s
    (vline s x y0 y1 color)
  rect : ∀ rect, Painted (.fill (fun p => rect.contains p = true) color) s (fillRect s rect color)
  clear : Painted (.fill (fun p => (bounds s).contains p = true) color) s (clear s color)
  block : ∀ pos size, Painted (.fill (fun p => (Rect.mk pos size).contains p = true) color) s
    (fillBlock s pos size color).1
  damage : ∀ pos size r, (fillBlock s pos size color).2 = some r →
    ∀ p, r.contains p = true ↔ (Rect.mk pos size).contains p = true ∧ (bounds s).contains p = true
  undamaged : ∀ pos size, (fillBlock s pos size color).2 = none
    ↔ ∀ p, ¬((Rect.mk pos size).contains p = true ∧ (bounds s).contains p = true)

theorem paintsShapes : PaintsShapes s color where
  seen p := PlainCanvas.isSome_pixel? s p hs
  put := painted_put hs color
  span := painted_fillRowSpan hs color
  hline := painted_hline hs color
  vline := painted_vline hs color
  rect := painted_fillRect hs color
  clear := painted_fillRect hs color (bounds s)
  block := painted_fillBlock hs color
  damage pos size r damaged p := by
    rw [snd_fillBlock] at damaged
    exact contains_visible? damaged
  undamaged pos size := by
    rw [snd_fillBlock]
    exact visible?_eq_none

end Canvas
end Overlay
