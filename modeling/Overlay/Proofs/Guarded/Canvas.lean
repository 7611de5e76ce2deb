import Overlay.Proofs.Canvas.Outline

/-!
This module contains the shapes with a guard before each step that can go wrong: a sum or a difference that is
not a coordinate, a negative column or row, a pixel without a place in the storage. No guard ever refuses, and
so the guarded shapes are the shapes.
-/

namespace Overlay

class Stored (σ : Type) [Canvas σ] where
  holds : σ → Nat → Nat → Nat → Bool

open Readable

class LawfulStored (σ : Type) [Canvas σ] [Readable σ] [Stored σ] : Prop where
  holds_of_fits : ∀ (s : σ) x y n, Intact s → x + n ≤ Canvas.width s → y < Canvas.height s →
    Stored.holds s x y n = true

namespace Guarded

/-- The column or row that a sum of coordinates names. The sum must not overflow, and must not be negative. -/
def index? (n : Int) : Option Nat := if 0 ≤ n ∧ n ≤ 2147483647 then some n.toNat else none

def rounds {σ : Type} (n : Nat) (round : (i : Nat) → i < n → σ → Option σ) (s : σ) : Option σ :=
  n.fold (fun i h s? => s?.bind (round i h)) (some s)

section

variable {σ : Type} [Canvas σ] [Stored σ]

structure Fits (s : σ) (x y n : Nat) : Prop where
  columns : x + n ≤ Canvas.width s
  row : y < Canvas.height s
  stored : Stored.holds s x y n = true

instance (s : σ) (x y n : Nat) : Decidable (Fits s x y n) :=
  decidable_of_iff (x + n ≤ Canvas.width s ∧ y < Canvas.height s ∧ Stored.holds s x y n = true)
    ⟨fun ⟨a, b, c⟩ => ⟨a, b, c⟩, fun ⟨a, b, c⟩ => ⟨a, b, c⟩⟩

def writePixel (s : σ) (x y : Nat) (color : Color) : Option σ :=
  if Fits s x y 1 then some (Canvas.writePixel s x y color) else none

def put (s : σ) (p : Point) (color : Color) : Option σ :=
  let size := Canvas.extent s
  if p.x < 0 ∨ p.y < 0 ∨ size.x ≤ p.x ∨ size.y ≤ p.y then
    some s
  else do
    let x ← index? p.x.val
    let y ← index? p.y.val
    writePixel s x y color

def clipRowSpan (s : σ) (row x0 x1 : Coord) : Option (Option RowSpan) :=
  let size := Canvas.extent s
  if row < 0 ∨ size.y ≤ row then
    some none
  else do
    let edge ← Coord.ofInt? (size.x.val - 1)
    let first := max x0 0
    let last := min x1 edge
    if last < first then
      some none
    else do
      let row ← index? row.val
      let first ← index? first.val
      let last ← index? last.val
      some (some ⟨row, first, last⟩)

def fillRowSpan (s : σ) (row x0 x1 : Coord) (color : Color) : Option σ := do
  match ← clipRowSpan s row x0 x1 with
  | none => some s
  | some span =>
    rounds (span.last + 1 - span.first) (fun i _ s => writePixel s (span.first + i) span.row color) s

def hline (s : σ) (x0 x1 y : Coord) (color : Color) : Option σ :=
  fillRowSpan s y (min x0 x1) (max x0 x1) color

def vline (s : σ) (x y0 y1 : Coord) (color : Color) : Option σ :=
  let size := Canvas.extent s
  if x < 0 ∨ size.x ≤ x then
    some s
  else do
    let edge ← Coord.ofInt? (size.y.val - 1)
    let first := max (min y0 y1) 0
    let last := min (max y0 y1) edge
    let column ← index? x.val
    let row ← index? first.val
    rounds (last.val + 1 - first.val).toNat (fun i _ s => writePixel s column (row + i) color) s

def fillRect (s : σ) (rect : Rect) (color : Color) : Option σ :=
  let r := rect.inter (Canvas.bounds s)
  if r.isEmpty then
    some s
  else
    rounds (r.bottom.val - r.pos.y.val).toNat
      (fun i _ s => do
        let row ← Coord.ofInt? (r.pos.y.val + i)
        let last ← Coord.ofInt? (r.right.val - 1)
        fillRowSpan s row r.pos.x last color)
      s

def clear (s : σ) (color : Color) : Option σ := fillRect s (Canvas.bounds s) color

def outline (s : σ) (pos size : Point) (color : Color) : Option (σ × Option Rect) :=
  if size.x ≤ 0 ∨ size.y ≤ 0 then
    some (s, none)
  else do
    let width ← Coord.ofInt? (size.x.val - 1)
    let height ← Coord.ofInt? (size.y.val - 1)
    let x1 := pos.x + width
    let y1 := pos.y + height
    let s ← hline s pos.x x1 pos.y color
    let s ← hline s pos.x x1 y1 color
    let s ← vline s pos.x pos.y y1 color
    let s ← vline s x1 pos.y y1 color
    some (s, Canvas.visible? s ⟨pos, size⟩)

end

theorem bind_of_eq_some {α β : Type} {a? : Option α} {a : α} (accepted : a? = some a) (f : α → Option β) :
    (a? >>= f) = f a := by
  rw [accepted]
  rfl

theorem ofInt?_val {c : Coord} {n : Int} (same : c.val = n) : Coord.ofInt? n = some c := by
  subst same
  exact dif_pos ⟨c.least_le, c.le_greatest⟩

theorem val_sub_one {c : Coord} (above : -2147483648 < c.val) : (c - 1).val = c.val - 1 := by
  have := c.le_greatest
  rw [Coord.val_sub, Coord.val_one]
  omega

theorem ofInt?_sub_one {c : Coord} (above : -2147483648 < c.val) : Coord.ofInt? (c.val - 1) = some (c - 1) :=
  ofInt?_val (val_sub_one above)

theorem index?_val {c : Coord} (nonneg : 0 ≤ c.val) : index? c.val = some c.toNat :=
  if_pos ⟨nonneg, c.le_greatest⟩

theorem index?_add {c : Coord} {i : Nat} (nonneg : 0 ≤ c.val) (le : c.toNat + i ≤ 2147483647) :
    index? (c.val + i) = some (c.toNat + i) := by
  rw [Coord.toNat] at le ⊢
  rw [index?, if_pos (by omega)]
  congr 1
  omega

theorem index?_of_fits {n : Int} (nonneg : 0 ≤ n) (le : n ≤ 2147483647) : index? n = some n.toNat :=
  if_pos ⟨nonneg, le⟩

example : index? (-1) = none ∧ index? 0 = some 0 ∧ index? 2147483648 = none := by decide

theorem rounds_eq {σ : Type} {I : σ → Prop} {n : Nat} {round : (i : Nat) → i < n → σ → Option σ}
    {f : (i : Nat) → i < n → σ → σ} {s : σ} (start : I s)
    (step : ∀ i h s, I s → round i h s = some (f i h s) ∧ I (f i h s)) :
    rounds n round s = some (n.fold f s) ∧ I (n.fold f s) := by
  -- The invariant is what a round needs in order not to be refused.
  apply Loop.relate (R := fun s? t => s? = some t ∧ I t)
  . exact ⟨rfl, start⟩
  . rintro i h _ t ⟨rfl, ht⟩
    exact step i h t ht

section

variable {σ : Type} [Canvas σ] [LawfulCanvas σ] {s : σ} (hs : Intact s)
include hs

theorem rounds_keep {n : Nat} {round : (i : Nat) → i < n → σ → Option σ} {f : (i : Nat) → i < n → σ → σ}
    (step : ∀ i h s', SameShape s s' → round i h s' = some (f i h s') ∧ SameShape s (f i h s')) :
    rounds n round s = some (n.fold f s) := (rounds_eq (Painted.idle hs).toSameShape step).1

theorem extent_above : -2147483648 < (Canvas.extent s).x.val ∧ -2147483648 < (Canvas.extent s).y.val := by
  rw [Canvas.val_extent_x hs, Canvas.val_extent_y hs]
  omega

theorem clipRowSpan_eq (row x0 x1 : Coord) :
    clipRowSpan s row x0 x1 = some (Canvas.clipRowSpan s row x0 x1) := by
  unfold clipRowSpan Canvas.clipRowSpan
  dsimp only
  split
  . rfl
  . next row_seen =>
    rw [bind_of_eq_some (ofInt?_sub_one (extent_above hs).1)]
    split
    . rfl
    . next ordered =>
      simp only [Coord.lt_def, Coord.val_zero, Coord.val_max] at row_seen ordered
      have first_nonneg : 0 ≤ (max x0 0).val := by
        rw [Coord.val_max, Coord.val_zero]
        omega
      rw [bind_of_eq_some (index?_val (by omega)), bind_of_eq_some (index?_val first_nonneg),
        bind_of_eq_some (index?_val (by omega))]

variable [Stored σ] [LawfulStored σ]

theorem fits {x y n : Nat} (hx : x + n ≤ Canvas.width s) (hy : y < Canvas.height s) : Fits s x y n :=
  ⟨hx, hy, LawfulStored.holds_of_fits s x y n hs hx hy⟩

theorem writePixel_eq {x y : Nat} (hx : x < Canvas.width s) (hy : y < Canvas.height s) (color : Color) :
    writePixel s x y color = some (Canvas.writePixel s x y color) := if_pos (fits hs hx hy)

omit hs in
theorem written {s' : σ} (shape : SameShape s s') {x y : Nat} (hx : x < Canvas.width s)
    (hy : y < Canvas.height s) (color : Color) :
    writePixel s' x y color = some (Canvas.writePixel s' x y color)
      ∧ SameShape s (Canvas.writePixel s' x y color) := by
  constructor
  . apply writePixel_eq shape.intact
    . rw [shape.width]
      exact hx
    . rw [shape.height]
      exact hy
  . exact shape.trans (LawfulCanvas.shape_writePixel _ _ _ _ shape.intact)

theorem put_eq (p : Point) (color : Color) : put s p color = some (Canvas.put s p color) := by
  unfold put Canvas.put
  dsimp only
  split
  . rfl
  . next inside =>
    simp only [Coord.lt_def, Coord.le_def, Canvas.val_extent_x hs, Canvas.val_extent_y hs, Coord.val_zero]
      at inside
    rw [bind_of_eq_some (index?_val (by omega)), bind_of_eq_some (index?_val (by omega))]
    apply writePixel_eq hs
    . rw [Coord.toNat]
      omega
    . rw [Coord.toNat]
      omega

theorem fillRowSpan_eq (row x0 x1 : Coord) (color : Color) :
    fillRowSpan s row x0 x1 color = some (Canvas.fillRowSpan s row x0 x1 color) := by
  unfold fillRowSpan Canvas.fillRowSpan
  rw [bind_of_eq_some (clipRowSpan_eq hs ..)]
  cases clip : Canvas.clipRowSpan s row x0 x1 with
  | none => rfl
  | some span =>
    have clips := Canvas.clips_of_clipRowSpan hs clip
    have last := clips.last
    have row_lt := clips.row_lt
    apply rounds_keep hs
    intro i hi s' shape
    apply written shape
    . omega
    . exact row_lt

theorem hline_eq (x0 x1 y : Coord) (color : Color) :
    hline s x0 x1 y color = some (Canvas.hline s x0 x1 y color) :=
  fillRowSpan_eq hs y (min x0 x1) (max x0 x1) color

theorem vline_eq (x y0 y1 : Coord) (color : Color) :
    vline s x y0 y1 color = some (Canvas.vline s x y0 y1 color) := by
  unfold vline Canvas.vline
  dsimp only
  split
  . rfl
  . next column_seen =>
    simp only [Coord.lt_def, Coord.le_def, Canvas.val_extent_x hs, Coord.val_zero] at column_seen
    obtain ⟨first, first_eq⟩ : ∃ first, first = max (min y0 y1) 0 := ⟨_, rfl⟩
    obtain ⟨last, last_eq⟩ : ∃ last, last = min (max y0 y1) ((Canvas.extent s).y - 1) := ⟨_, rfl⟩
    have first_nonneg : 0 ≤ first.val := by
      rw [first_eq, Coord.val_max, Coord.val_zero]
      omega
    have last_lt : last.val < Canvas.height s := by
      rw [last_eq, Coord.val_min, val_sub_one (extent_above hs).2, Canvas.val_extent_y hs]
      omega
    rw [bind_of_eq_some (ofInt?_sub_one (extent_above hs).2), ← first_eq, ← last_eq,
      bind_of_eq_some (index?_val (by omega)), bind_of_eq_some (index?_val first_nonneg)]
    apply rounds_keep hs
    intro i hi s' shape
    apply written shape
    . rw [Coord.toNat]
      omega
    . rw [Coord.toNat]
      omega

theorem fillRect_eq (rect : Rect) (color : Color) :
    fillRect s rect color = some (Canvas.fillRect s rect color) := by
  unfold fillRect Canvas.fillRect
  dsimp only
  split
  . rfl
  . next proper =>
    rw [Bool.not_eq_true, Rect.isEmpty_eq_false] at proper
    generalize rect.inter (Canvas.bounds s) = r at proper ⊢
    have right_above : -2147483648 < r.right.val := by
      have := r.pos.x.least_le
      rw [Rect.right, Coord.val_add]
      omega
    apply rounds_keep hs
    intro i hi s' shape
    have row : (Coord.clamp (r.pos.y.val + i)).val = r.pos.y.val + i := by
      have := r.pos.y.least_le
      have := r.bottom.le_greatest
      exact Coord.val_clamp_of_fits (by omega)
    rw [bind_of_eq_some (ofInt?_val row), bind_of_eq_some (ofInt?_sub_one right_above)]
    constructor
    . exact fillRowSpan_eq shape.intact ..
    . exact shape.trans (Canvas.painted_fillRowSpan shape.intact color ..).toSameShape

theorem outline_eq (pos size : Point) (color : Color) :
    outline s pos size color = some (Canvas.outline s pos size color) := by
  unfold outline Canvas.outline
  split
  . rfl
  . next proper =>
    rw [Coord.le_def, Coord.le_def, Coord.val_zero] at proper
    have top := Canvas.painted_hline hs color pos.x (pos.x + (size.x - 1)) pos.y
    have bottom := Canvas.painted_hline top.intact color pos.x (pos.x + (size.x - 1)) (pos.y + (size.y - 1))
    have left := Canvas.painted_vline bottom.intact color pos.x pos.y (pos.y + (size.y - 1))
    rw [bind_of_eq_some (ofInt?_sub_one (by omega)), bind_of_eq_some (ofInt?_sub_one (by omega))]
    dsimp only
    rw [bind_of_eq_some (hline_eq hs ..), bind_of_eq_some (hline_eq top.intact ..),
      bind_of_eq_some (vline_eq bottom.intact ..), bind_of_eq_some (vline_eq left.intact ..)]

end

end Guarded
end Overlay
