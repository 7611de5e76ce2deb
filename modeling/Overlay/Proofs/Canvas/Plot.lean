import Overlay.Proofs.Canvas.Painted

/-!
This module contains the plainest way to paint: to go through all points of a surface, and to store a
colour wherever a rule gives one.
-/

namespace Overlay

open Readable

namespace Canvas

variable {σ : Type} [Canvas σ]

def plot (s : σ) (x y : Nat) : Option Color → σ
  | some color => writePixel s x y color
  | none => s

def plotAll (s : σ) (rule : Nat → Nat → Option Color) : σ :=
  Nat.fold (height s)
    (fun y _ s' => Nat.fold (width s) (fun x _ s' => plot s' x y (rule x y)) s')
    s

def plotBlock (s : σ) (x y columns rows : Nat) (rule : Nat → Nat → Option Color) : σ :=
  Nat.fold rows
    (fun i _ s =>
      Nat.fold columns (fun j _ s => plot s (x + j) (y + i) (rule (x + j) (y + i))) s)
    s

def render (s : σ) (φ : Picture) : σ := plotAll s fun x y => φ ⟨.clamp x, .clamp y⟩

variable {s : σ} {rule : Nat → Nat → Option Color}

theorem plotAll_eq_plotBlock {x y columns rows : Nat} (hx : x + columns ≤ width s)
    (hy : y + rows ≤ height s)
    (inside : ∀ x' y', x' < width s → y' < height s → (rule x' y').isSome = true →
      (x ≤ x' ∧ x' < x + columns) ∧ y ≤ y' ∧ y' < y + rows) :
    plotAll s rule = plotBlock s x y columns rows rule := by
  have outside : ∀ x' y', x' < width s → y' < height s →
      ¬((x ≤ x' ∧ x' < x + columns) ∧ y ≤ y' ∧ y' < y + rows) → rule x' y' = none := by
    intro x' y' hx' hy' out
    rw [← Option.not_isSome_iff_eq_none]
    intro inked
    exact out (inside x' y' hx' hy' inked)
  rw [plotAll, plotBlock]
  rw [Loop.trim (height s) y rows (fun y s' => Nat.fold (width s) (fun x _ s' => plot s' x y (rule x y)) s')
    s hy]
  . apply Loop.congr (I := fun _ => True)
    . trivial
    . intros
      trivial
    . intro i hi s' _
      apply Loop.trim (width s) x columns (fun x s' => plot s' x (y + i) (rule x (y + i))) s' hx
      intro x' s' hx' out
      rw [outside x' (y + i) hx' (by omega) (by omega)]
      rfl
  . intro y' s' hy' out
    apply Loop.idle
    intro x' hx' s'
    rw [outside x' y' hx' hy' (by omega)]
    rfl

theorem plotBlock_congr {x y columns rows : Nat} {rule' : Nat → Nat → Option Color}
    (same : ∀ i j, i < rows → j < columns → rule (x + j) (y + i) = rule' (x + j) (y + i)) :
    plotBlock s x y columns rows rule = plotBlock s x y columns rows rule' := by
  apply Loop.congr (I := fun _ => True)
  . trivial
  . intros
    trivial
  . intro i hi s' _
    apply Loop.congr (I := fun _ => True)
    . trivial
    . intros
      trivial
    . intro j hj s' _
      rw [same i j hi hj]

theorem plotAll_congr {rule' : Nat → Nat → Option Color}
    (same : ∀ x y, x < width s → y < height s → rule x y = rule' x y) :
    plotAll s rule = plotAll s rule' := by
  apply Loop.congr (I := fun _ => True)
  . trivial
  . intros
    trivial
  . intro y hy s' _
    apply Loop.congr (I := fun _ => True)
    . trivial
    . intros
      trivial
    . intro x hx s' _
      rw [same x y hx hy]

theorem plotAll_idle
    (blank : ∀ x y, x < width s → y < height s → rule x y = none) : plotAll s rule = s := by
  apply Loop.idle
  intro y hy s'
  apply Loop.idle
  intro x hx s'
  rw [blank x y hx hy]
  rfl

variable [Readable σ] [PlainCanvas σ]

theorem painted_plot (hs : Intact s) {x y : Nat} (hx : x < width s) (hy : y < height s)
    (color : Option Color) :
    Painted (fun p => if p.x.val = x ∧ p.y.val = y then color else none) s (plot s x y color) := by
  cases color with
  | none =>
    apply (Painted.idle hs).congr
    intro p _
    rw [ite_self]
  | some color => exact PlainCanvas.painted_writePixel s x y color hs hx hy

theorem painted_plotAll (hs : Intact s) (rule : Nat → Nat → Option Color) :
    Painted (fun p => rule p.x.toNat p.y.toNat) s (plotAll s rule) := by
  let φ : Picture := fun p => rule p.x.toNat p.y.toNat
  let column (y : Nat) : Picture := fun p => if p.y.val = y then φ p else none
  have rows : Painted (fun p => if 0 ≤ p.y.val ∧ p.y.val < height s then φ p else none) s
      (plotAll s rule) := by
    apply Painted.loop hs fun p => p.y.val
    intro y hy s' shape
    replace hy : y < height s := hy
    have columns : Painted (fun p => if 0 ≤ p.x.val ∧ p.x.val < width s then column y p else none) s'
        (Nat.fold (width s) (fun x _ s' => plot s' x y (rule x y)) s') := by
      apply Painted.loop shape.intact fun p => p.x.val
      intro x hx s'' shape'
      have shape := shape.trans shape'
      replace hx : x < width s := hx
      apply (painted_plot shape.intact (by rw [shape.width]; exact hx)
        (by rw [shape.height]; exact hy) (rule x y)).congr
      intro p _
      dsimp only [column, φ]
      by_cases hit : p.x.val = x
      . by_cases row_hit : p.y.val = y
        . rw [if_pos ⟨hit, row_hit⟩, if_pos hit, if_pos row_hit]
          rw [Coord.toNat, hit, Coord.toNat, row_hit, Int.toNat_natCast, Int.toNat_natCast]
        . rw [if_neg (by omega), if_pos hit, if_neg row_hit]
      . rw [if_neg (by omega), if_neg hit]
    apply columns.congr
    intro p seen
    have inside := contains_of_seen shape.intact seen
    rw [shape.width] at inside
    rw [if_pos inside.1]
  apply rows.congr
  intro p seen
  rw [if_pos (contains_of_seen hs seen).2]

theorem painted_render (hs : Intact s) (φ : Picture) : Painted φ s (render s φ) := by
  apply (painted_plotAll hs _).congr
  rintro ⟨x, y⟩ seen
  have inside := contains_of_seen hs seen
  rw [Coord.toNat, Coord.toNat, Int.toNat_of_nonneg inside.1.1, Int.toNat_of_nonneg inside.2.1,
    Coord.clamp_val, Coord.clamp_val]

theorem render_congr (hs : Intact s) {φ ψ : Picture}
    (same : ∀ p, (pixel? s p).isSome = true → φ p = ψ p) : render s φ = render s ψ := by
  apply plotAll_congr
  intro x y hx hy
  apply same
  exact seen_clamp hs hx hy

end Canvas
end Overlay
