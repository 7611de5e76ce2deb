import Overlay.Canvas.Basic
import Overlay.Proofs.Loop
import Overlay.Proofs.Pixel.Encoding
import Overlay.Proofs.Pixel.Layout

/-!
This module contains paintings as partial maps from points to colours, and the laws of surfaces that can
be read back: a stored pixel changes one point, a stored row changes one strip. What a loop of such steps
paints follows from what each of its rounds paints.
-/

namespace Overlay

/-- The colour that a painting gives to a point, if it covers the point. -/
abbrev Picture := Point → Option Color

namespace Picture

def dot (x y : Nat) (color : Color) : Picture :=
  fun p => if p.x.val = x ∧ p.y.val = y then some color else none

def strip (x y count : Nat) (color : Nat → Color) : Picture :=
  fun p =>
    if p.y.val = y ∧ x ≤ p.x.val ∧ p.x.val < x + count then
      some (color (p.x.val - x).toNat)
    else
      none

end Picture

/-- Surfaces that can be read back. The bytes between the rows, of which no pixel is made, are read by
their address. -/
class Readable (σ : Type) [Canvas σ] where
  pixel? : σ → Point → Option Color
  padding? : σ → Nat → Option UInt8
  /-- Whether a surface has a place for each of its pixels. -/
  Intact : σ → Prop

namespace Readable

variable {σ : Type} [Canvas σ] [Readable σ]

structure SameShape (s s' : σ) : Prop where
  width : Canvas.width s' = Canvas.width s
  height : Canvas.height s' = Canvas.height s
  format : Canvas.format s' = Canvas.format s
  intact : Intact s'

structure Painted (φ : Picture) (s s' : σ) : Prop extends SameShape s s' where
  pixel : ∀ p, pixel? s' p = (pixel? s p).map fun old => (φ p).getD old
  padding : ∀ i, padding? s' i = padding? s i

variable {s s' s'' : σ} {φ ψ : Picture}

theorem SameShape.trans (h : SameShape s s') (h' : SameShape s' s'') : SameShape s s'' where
  width := h'.width.trans h.width
  height := h'.height.trans h.height
  format := h'.format.trans h.format
  intact := h'.intact

theorem SameShape.bounds (h : SameShape s s') : Canvas.bounds s' = Canvas.bounds s := by
  rw [Canvas.bounds, Canvas.extent, h.width, h.height]
  rfl

namespace Painted

theorem idle (h : Intact s) : Painted (fun _ => none) s s where
  width := rfl
  height := rfl
  format := rfl
  intact := h
  pixel p := by simp
  padding _ := rfl

theorem congr (h : Painted φ s s') (same : ∀ p, (pixel? s p).isSome = true → φ p = ψ p) :
    Painted ψ s s' where
  toSameShape := h.toSameShape
  pixel p := by
    rw [h.pixel]
    cases hp : pixel? s p with
    | none => rfl
    | some old =>
      rw [same p]
      rw [hp]
      rfl
  padding := h.padding

theorem trans (h : Painted φ s s') (h' : Painted ψ s' s'') :
    Painted (fun p => (ψ p).or (φ p)) s s'' where
  toSameShape := h.toSameShape.trans h'.toSameShape
  pixel p := by
    rw [h'.pixel, h.pixel, Option.map_map]
    congr 1
    funext old
    cases ψ p <;> simp
  padding i := (h'.padding i).trans (h.padding i)

theorem loop {n : Nat} {f : (i : Nat) → i < n → σ → σ} (hs : Intact s) (number : Point → Int)
    (round : ∀ (i : Nat) h s', SameShape s s' →
      Painted (fun p => if number p = i then φ p else none) s' (f i h s')) :
    Painted (fun p => if 0 ≤ number p ∧ number p < n then φ p else none) s (n.fold f s) := by
  apply Loop.progress
    (motive := fun k => Painted (fun p => if 0 ≤ number p ∧ number p < k then φ p else none) s)
  . apply (idle hs).congr
    intro p _
    rw [if_neg (by omega)]
  . intro k hk s' before
    apply (before.trans (round k hk _ before.toSameShape)).congr
    intro p _
    by_cases last : number p = k
    . rw [if_pos last, if_neg (by omega), if_pos (by omega), Option.or_none]
    . rw [if_neg last, Option.none_or]
      by_cases earlier : 0 ≤ number p ∧ number p < k
      . rw [if_pos earlier, if_pos (by omega)]
      . rw [if_neg earlier, if_neg (by omega)]

end Painted
end Readable

open Readable

/-- What holds of each surface here: it has a limited size, a stored pixel changes one point, and a row
of pixels that fits the surface changes one strip. -/
class LawfulCanvas (σ : Type) [Canvas σ] extends Readable σ where
  width_le : ∀ s : σ, Intact s → Canvas.width s ≤ Layout.maxDimension
  height_le : ∀ s : σ, Intact s → Canvas.height s ≤ Layout.maxDimension
  isSome_pixel? : ∀ (s : σ) p, Intact s → (pixel? s p).isSome = (Canvas.bounds s).contains p
  shape_writePixel : ∀ (s : σ) x y color, Intact s → SameShape s (Canvas.writePixel s x y color)
  shape_copyRow : ∀ (s : σ) x y row format, Intact s → SameShape s (Canvas.copyRow s x y row format)
  painted_writePixel : ∀ (s : σ) x y color, Intact s → x < Canvas.width s → y < Canvas.height s →
    Painted (.dot x y color) s (Canvas.writePixel s x y color)
  painted_copyRow : ∀ (s : σ) x y n row (format : PixelFormat), Intact s →
    x + n ≤ Canvas.width s → y < Canvas.height s → row.size = n * format.bytesPerPixel →
    Painted (.strip x y n fun i => format.decodeAt row (i * format.bytesPerPixel)) s
      (Canvas.copyRow s x y row format)
  copyRow_eq_copyPixels : ∀ (s : σ) x y colors row (format : PixelFormat), Intact s →
    x + colors.length ≤ Canvas.width s → y < Canvas.height s →
    Storage.bytes row = format.encodeAll colors →
    Canvas.copyRow s x y row format
      =
    copyPixels (fun s x color => Canvas.writePixel s x y color) s x row format

/-- What the shapes need of a surface: its size is one that the coordinates reach, the pixels that can be read
are those within its bounds, and a stored pixel changes one point. -/
class PlainCanvas (σ : Type) [Canvas σ] [Readable σ] : Prop where
  width_le : ∀ s : σ, Intact s → Canvas.width s ≤ 2147483647
  height_le : ∀ s : σ, Intact s → Canvas.height s ≤ 2147483647
  isSome_pixel? : ∀ (s : σ) p, Intact s → (pixel? s p).isSome = (Canvas.bounds s).contains p
  painted_writePixel : ∀ (s : σ) x y color, Intact s → x < Canvas.width s → y < Canvas.height s →
    Painted (.dot x y color) s (Canvas.writePixel s x y color)

instance (σ : Type) [Canvas σ] [LawfulCanvas σ] : PlainCanvas σ where
  width_le s hs := Nat.le_trans (LawfulCanvas.width_le s hs) (by decide)
  height_le s hs := Nat.le_trans (LawfulCanvas.height_le s hs) (by decide)
  isSome_pixel? := LawfulCanvas.isSome_pixel?
  painted_writePixel := LawfulCanvas.painted_writePixel

namespace Canvas

variable {σ : Type} [Canvas σ] [Readable σ] [PlainCanvas σ] {s : σ} (hs : Intact s)
include hs

theorem val_extent_x : (extent s).x.val = width s := Coord.val_wrap_of_le (PlainCanvas.width_le s hs)

theorem val_extent_y : (extent s).y.val = height s := Coord.val_wrap_of_le (PlainCanvas.height_le s hs)

theorem toNat_extent_x : (extent s).x.toNat = width s := by
  rw [Coord.toNat, val_extent_x hs, Int.toNat_natCast]

theorem toNat_extent_y : (extent s).y.toNat = height s := by
  rw [Coord.toNat, val_extent_y hs, Int.toNat_natCast]

theorem contains_bounds {p : Point} :
    (bounds s).contains p = true
      ↔
    (0 ≤ p.x.val ∧ p.x.val < width s) ∧ 0 ≤ p.y.val ∧ p.y.val < height s := by
  rw [bounds, Rect.contains_ofSize, Rect.covers_ofSize, val_extent_x hs, val_extent_y hs]

theorem contains_of_seen {p : Point} (seen : (pixel? s p).isSome = true) :
    (0 ≤ p.x.val ∧ p.x.val < width s) ∧ 0 ≤ p.y.val ∧ p.y.val < height s := by
  rw [PlainCanvas.isSome_pixel? s p hs, contains_bounds hs] at seen
  exact seen

theorem seen_clamp {x y : Nat} (hx : x < width s) (hy : y < height s) :
    (pixel? s ⟨.clamp x, .clamp y⟩).isSome = true := by
  have width_le := PlainCanvas.width_le s hs
  have height_le := PlainCanvas.height_le s hs
  rw [PlainCanvas.isSome_pixel? s _ hs, contains_bounds hs, Coord.val_clamp_of_fits (by omega),
    Coord.val_clamp_of_fits (by omega)]
  omega

end Canvas

namespace Readable

variable {σ : Type} [Canvas σ] [Readable σ]

theorem shape_copyPixels
    (shape : ∀ (s : σ) x y color, Intact s → SameShape s (Canvas.writePixel s x y color))
    {s : σ} (hs : Intact s) (x y : Nat) (row : ByteArray) (format : PixelFormat) :
    SameShape s (copyPixels (fun s x color => Canvas.writePixel s x y color) s x row format) := by
  apply Loop.invariant (motive := SameShape s)
  . exact (Painted.idle hs).toSameShape
  . intro i _ s' hs'
    apply hs'.trans
    apply shape
    exact hs'.intact

theorem painted_copyPixels
    (write : ∀ (s : σ) x y color, Intact s → x < Canvas.width s → y < Canvas.height s →
      Painted (.dot x y color) s (Canvas.writePixel s x y color))
    {s : σ} (hs : Intact s) {x y n : Nat} {row : ByteArray} {format : PixelFormat}
    (hx : x + n ≤ Canvas.width s) (hy : y < Canvas.height s)
    (hn : row.size = n * format.bytesPerPixel) :
    Painted (.strip x y n fun i => format.decodeAt row (i * format.bytesPerPixel)) s
      (copyPixels (fun s x color => Canvas.writePixel s x y color) s x row format) := by
  have count : row.size / format.bytesPerPixel = n := by
    rw [hn, Nat.mul_div_cancel _ format.bytesPerPixel_pos]
  unfold copyPixels
  rw [count]
  let φ : Picture := fun p =>
    if p.y.val = y then
      some (format.decodeAt row ((p.x.val - x).toNat * format.bytesPerPixel))
    else
      none
  apply (Painted.loop (φ := φ) hs (fun p => p.x.val - x) ?_).congr
  . intro p _
    dsimp only [φ, Picture.strip]
    by_cases row_hit : p.y.val = y
    . by_cases column_hit : x ≤ p.x.val ∧ p.x.val < x + n
      . rw [if_pos (by omega), if_pos row_hit, if_pos (by omega)]
      . rw [if_neg (by omega), if_neg (by omega)]
    . rw [if_neg row_hit, ite_self, if_neg (by omega)]
  . intro i hi s' shape
    apply (write s' (x + i) y _ shape.intact (by rw [shape.width]; omega)
      (by rw [shape.height]; exact hy)).congr
    intro p _
    dsimp only [φ, Picture.dot]
    by_cases column_hit : p.x.val - x = i
    . rw [if_pos column_hit, column_hit, Int.toNat_natCast]
      by_cases row_hit : p.y.val = y
      . rw [if_pos row_hit, if_pos (by omega)]
      . rw [if_neg row_hit, if_neg (by omega)]
    . rw [if_neg column_hit, if_neg (by omega)]

end Readable
end Overlay
