import Overlay.Proofs.Surface.FrameBuffer

/-!
This module contains the meaning of copying from a frame buffer: each point of the sink whose source lies
in the area and in the buffer gets the colour of its source, and nothing else changes.
-/

namespace Overlay

open Readable

namespace FrameBuffer

def sent? (fb : FrameBuffer) (target : Point) (area : Rect) (p : Point) : Option Color :=
  let u := p.x.val - target.x.val + area.pos.x.val
  let v := p.y.val - target.y.val + area.pos.y.val
  if area.Covers u v then fb.pixel? ⟨.clamp u, .clamp v⟩ else none

variable {fb : FrameBuffer}

theorem size_rowBytes {x y n : Nat} (hx : x + n ≤ fb.layout.width) (hy : y < fb.layout.height) :
    (fb.rowBytes x y n).size = n * fb.layout.format.bytesPerPixel := by
  have fits := fits hx hy
  rw [rowBytes, ByteArray.size_extract, Layout.bytesPerPixel] at *
  omega

theorem byte_rowBytes {x y n j k : Nat} (hj : j < n) (hk : k < fb.layout.bytesPerPixel) :
    (Storage.bytes (fb.rowBytes x y n))[j * fb.layout.bytesPerPixel + k]?
      =
    (Storage.bytes fb.data)[fb.layout.offset (x + j) y + k]? := by
  have last : j * fb.layout.bytesPerPixel + fb.layout.bytesPerPixel
      ≤ n * fb.layout.bytesPerPixel := by
    rw [← Nat.succ_mul]
    exact Nat.mul_le_mul_right _ hj
  rw [rowBytes, Storage.bytes_extract, List.getElem?_take_of_lt (by omega), List.getElem?_drop,
    Layout.offset_add, Nat.add_assoc]

theorem decodeAt_rowBytes {x y n j : Nat} (hj : j < n) :
    fb.layout.format.decodeAt (fb.rowBytes x y n) (j * fb.layout.format.bytesPerPixel)
      =
    fb.layout.format.decodeAt fb.data (fb.layout.offset (x + j) y) := by
  have bpp : 3 ≤ fb.layout.bytesPerPixel := fb.layout.format.three_le_bytesPerPixel
  apply PixelFormat.decodeAt_congr
  intro k hk
  exact byte_rowBytes hj (Nat.lt_of_lt_of_le hk bpp)

theorem pixel?_of_lt {x y : Nat} (hx : x < fb.layout.width) (hy : y < fb.layout.height) :
    fb.pixel? ⟨.clamp x, .clamp y⟩
      =
    some (fb.layout.format.decodeAt fb.data (fb.layout.offset x y)) := by
  have width_le : fb.layout.width ≤ 8192 := fb.valid.width_le
  have height_le : fb.layout.height ≤ 8192 := fb.valid.height_le
  have column : (Coord.clamp x).val = x := Coord.val_clamp_of_fits (by omega)
  have row : (Coord.clamp y).val = y := Coord.val_clamp_of_fits (by omega)
  have seen : fb.bounds.contains ⟨.clamp x, .clamp y⟩ = true := by
    rw [bounds, fb.valid.contains_size, column, row]
    omega
  rw [pixel?_eq seen, Coord.toNat, column, Coord.toNat, row, Int.toNat_natCast, Int.toNat_natCast]

theorem covers_of_pixel? {u v : Int} (h : (fb.pixel? ⟨.clamp u, .clamp v⟩).isSome = true) :
    (Rect.ofSize fb.layout.size).Covers u v := by
  have width_le : fb.layout.width ≤ 8192 := fb.valid.width_le
  have height_le : fb.layout.height ≤ 8192 := fb.valid.height_le
  unfold pixel? at h
  split at h
  . next seen =>
    rw [Rect.covers_ofSize, Layout.size, Coord.val_wrap fb.valid.width_le,
      Coord.val_wrap fb.valid.height_le]
    rw [bounds, fb.valid.contains_size, Coord.val_clamp, Coord.val_clamp] at seen
    omega
  . exact absurd h Bool.false_ne_true

theorem covers_of_sent? {target : Point} {area : Rect} {p : Point}
    (h : (fb.sent? target area p).isSome = true) :
    area.Covers (p.x.val - target.x.val + area.pos.x.val) (p.y.val - target.y.val + area.pos.y.val)
      ∧ (Rect.ofSize fb.layout.size).Covers (p.x.val - target.x.val + area.pos.x.val)
          (p.y.val - target.y.val + area.pos.y.val) := by
  unfold sent? at h
  dsimp only at h
  split at h
  . next in_area => exact ⟨in_area, covers_of_pixel? h⟩
  . exact absurd h Bool.false_ne_true

theorem sent?_self (fb : FrameBuffer) (area : Rect) (p : Point) :
    fb.sent? area.pos area p = if area.Covers p.x.val p.y.val then fb.pixel? p else none := by
  unfold sent?
  dsimp only
  rw [Int.sub_add_cancel, Int.sub_add_cancel, Coord.clamp_val, Coord.clamp_val]

theorem sent?_of_place {area : Rect} {target targetSize : Point} {t : Transfer}
    (clipped : t.Clipped area fb.layout.size target targetSize) {i j : Nat} (hi : i < t.rows)
    (hj : j < t.columns) {p : Point} (hx : p.x.val = (t.target.x.toNat + j : Nat))
    (hy : p.y.val = (t.target.y.toNat + i : Nat)) :
    fb.sent? target area p
      =
    some (fb.layout.format.decodeAt
      (fb.rowBytes t.source.pos.x.toNat (t.source.pos.y.toNat + i) t.columns)
      (j * fb.layout.format.bytesPerPixel)) := by
  have source_columns := clipped.columns_fit.1
  have source_rows := clipped.rows_fit.1
  rw [fb.valid.toNat_size_x] at source_columns
  rw [fb.valid.toNat_size_y] at source_rows
  have on_target : (Rect.ofSize targetSize).Covers p.x.val p.y.val := by
    have target_columns := clipped.columns_fit.2
    have target_rows := clipped.rows_fit.2
    rw [Coord.toNat, Coord.toNat] at target_columns target_rows
    rw [Coord.toNat] at hx hy
    rw [Rect.covers_ofSize]
    omega
  obtain ⟨u_eq, v_eq⟩ := clipped.came_from i j
  rw [← hx] at u_eq
  rw [← hy] at v_eq
  obtain ⟨in_area, _⟩ := (clipped.lands_iff on_target).mpr (by omega)
  rw [decodeAt_rowBytes hj, sent?]
  rw [u_eq, v_eq] at in_area ⊢
  rw [if_pos in_area, pixel?_of_lt (by omega) (by omega)]

section

variable {σ : Type} [Canvas σ] [LawfulCanvas σ] {s : σ}

theorem painted_copyTo (hs : Intact s) (fb : FrameBuffer) (target : Point) (area : Rect) :
    Painted (fb.sent? target area) s (fb.copyTo s target area) := by
  have on_sink : ∀ p, (Readable.pixel? s p).isSome = true →
      (Rect.ofSize (Canvas.extent s)).Covers p.x.val p.y.val := by
    intro p seen
    rw [LawfulCanvas.isSome_pixel? _ _ hs, Canvas.bounds, Rect.contains_ofSize] at seen
    exact seen
  rw [copyTo, bounds, Canvas.bounds]
  cases h : Transfer.clip area (.ofSize fb.layout.size) target (.ofSize (Canvas.extent s)) with
  | none =>
    apply (Painted.idle hs).congr
    intro p seen
    apply Eq.symm
    rw [← Option.not_isSome_iff_eq_none]
    intro sent
    exact Transfer.not_covers_of_clip h (on_sink p seen) (covers_of_sent? sent)
  | some t =>
    have clipped := Transfer.clipped_of_clip h
    obtain ⟨source_columns, target_columns⟩ := clipped.columns_fit
    obtain ⟨source_rows, target_rows⟩ := clipped.rows_fit
    rw [fb.valid.toNat_size_x] at source_columns
    rw [fb.valid.toNat_size_y] at source_rows
    rw [Canvas.toNat_extent_x hs] at target_columns
    rw [Canvas.toNat_extent_y hs] at target_rows
    let φ : Picture := fun p =>
      if t.target.x.toNat ≤ p.x.val ∧ p.x.val < t.target.x.toNat + t.columns then
        fb.sent? target area p
      else
        none
    apply (Painted.loop (φ := φ) hs (fun p => p.y.val - t.target.y.toNat) ?_).congr
    . intro p seen
      dsimp only [φ]
      cases sent : fb.sent? target area p with
      | none => rw [ite_self, ite_self]
      | some color =>
        have inked : (fb.sent? target area p).isSome = true := by
          rw [sent]
          rfl
        obtain ⟨columns, rows⟩ := (clipped.lands_iff (on_sink p seen)).mp (covers_of_sent? inked)
        rw [if_pos, if_pos columns]
        omega
    . intro i hi s' shape
      replace hi : i < t.rows := hi
      have size : (fb.rowBytes t.source.pos.x.toNat (t.source.pos.y.toNat + i) t.columns).size
          = t.columns * fb.layout.format.bytesPerPixel :=
        size_rowBytes source_columns (by omega)
      apply (LawfulCanvas.painted_copyRow s' t.target.x.toNat (t.target.y.toNat + i) t.columns _
        fb.layout.format shape.intact (by rw [shape.width]; exact target_columns)
        (by rw [shape.height]; omega) size).congr
      intro p _
      dsimp only [φ, Picture.strip]
      by_cases row_hit : p.y.val - t.target.y.toNat = i
      . rw [if_pos row_hit]
        by_cases column_hit :
            t.target.x.toNat ≤ p.x.val ∧ p.x.val < t.target.x.toNat + t.columns
        . obtain ⟨j, hj⟩ : ∃ j : Nat, p.x.val = (t.target.x.toNat + j : Nat) :=
            ⟨(p.x.val - t.target.x.toNat).toNat, by omega⟩
          have j_eq : (p.x.val - t.target.x.toNat).toNat = j := by omega
          rw [if_pos column_hit, if_pos (by omega), j_eq]
          exact (sent?_of_place clipped hi (by omega) hj (by omega)).symm
        . rw [if_neg column_hit, if_neg (by omega)]
      . rw [if_neg row_hit, if_neg (by omega)]

end

end FrameBuffer
end Overlay
