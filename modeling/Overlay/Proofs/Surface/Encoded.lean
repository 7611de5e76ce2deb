import Overlay.Proofs.Canvas.Plot
import Overlay.Proofs.Surface.FrameBuffer

/-!
This module contains the bytes that a painting leaves in a frame buffer if it stores one pixel after the
other: those of the pixels that it covers are the encodings of their colours, and all others stay as they are.
Two paintings that give the same colours to the same pixels thus leave the same buffer, in whatever order they
store them.
-/

namespace Overlay

open Readable

theorem Layout.exists_place {l : Layout} {i : Nat} (hi : i < l.byteSize) (inside : ¬l.Padding i) :
    ∃ x y k, x < l.width ∧ y < l.height ∧ k < l.bytesPerPixel ∧ i = l.offset x y + k := by
  have bpp : 0 < l.bytesPerPixel := l.format.bytesPerPixel_pos
  rw [Padding, Nat.not_le] at inside
  refine ⟨i % l.pitch / l.bytesPerPixel, i / l.pitch, i % l.pitch % l.bytesPerPixel, ?_, ?_, ?_, ?_⟩
  . exact Nat.div_lt_of_lt_mul (by rw [Nat.mul_comm]; exact inside)
  . exact Nat.div_lt_of_lt_mul hi
  . exact Nat.mod_lt _ bpp
  . rw [offset, Nat.add_assoc, Nat.div_add_mod', Nat.div_add_mod']

namespace FrameBuffer

variable {fb fb' fb'' : FrameBuffer} {rule rule' : Nat → Nat → Option Color}

theorem byte_congr (layout : fb.layout = fb'.layout) {i : Nat}
    (bytes : ∀ x y k, x < fb.layout.width → y < fb.layout.height → k < fb.layout.bytesPerPixel →
      i = fb.layout.offset x y + k → fb.byteAt? x y k = fb'.byteAt? x y k)
    (padding : padding? fb i = padding? fb' i) : (Storage.bytes fb.data)[i]? = (Storage.bytes fb'.data)[i]? := by
  by_cases hi : i < fb.layout.byteSize
  . by_cases between : fb.layout.Padding i
    . simp only [padding?, ← layout, if_pos between] at padding
      exact padding
    . obtain ⟨x, y, k, hx, hy, hk, rfl⟩ := Layout.exists_place hi between
      have same := bytes x y k hx hy hk rfl
      rw [byteAt?, byteAt?, ← layout] at same
      exact same
  . rw [List.getElem?_eq_none, List.getElem?_eq_none]
    . rw [Storage.length_bytes, fb'.size_data, ← layout]
      omega
    . rw [Storage.length_bytes, fb.size_data]
      omega

theorem eq_of_byteAt (layout : fb.layout = fb'.layout)
    (bytes : ∀ x y k, x < fb.layout.width → y < fb.layout.height → k < fb.layout.bytesPerPixel →
      fb.byteAt? x y k = fb'.byteAt? x y k)
    (padding : ∀ i, padding? fb i = padding? fb' i) : fb = fb' := by
  apply eq_of_bytes layout
  apply List.ext_getElem?
  intro i
  exact byte_congr layout (fun x y k hx hy hk _ => bytes x y k hx hy hk) (padding i)

structure Encoded (rule : Nat → Nat → Option Color) (fb fb' : FrameBuffer) : Prop where
  layout : fb'.layout = fb.layout
  byte : ∀ x y k, x < fb.layout.width → y < fb.layout.height → k < fb.layout.bytesPerPixel →
    fb'.byteAt? x y k
      =
    match rule x y with
    | some color => (fb.layout.format.encode color)[k]?
    | none => fb.byteAt? x y k
  padding : ∀ i, padding? fb' i = padding? fb i

namespace Encoded

theorem idle : Encoded (fun _ _ => none) fb fb where
  layout := rfl
  byte _ _ _ _ _ _ := rfl
  padding _ := rfl

theorem congr (h : Encoded rule fb fb')
    (same : ∀ x y, x < fb.layout.width → y < fb.layout.height → rule x y = rule' x y) :
    Encoded rule' fb fb' where
  layout := h.layout
  byte x y k hx hy hk := by
    rw [h.byte x y k hx hy hk, same x y hx hy]
  padding := h.padding

theorem trans (h : Encoded rule fb fb') (h' : Encoded rule' fb' fb'') :
    Encoded (fun x y => (rule' x y).or (rule x y)) fb fb'' where
  layout := h'.layout.trans h.layout
  byte x y k hx hy hk := by
    have first := h.byte x y k hx hy hk
    have second := h'.byte x y k
    rw [h.layout] at second
    rw [second hx hy hk, first]
    cases rule' x y <;> rfl
  padding i := (h'.padding i).trans (h.padding i)

theorem loop {n : Nat} {f : (i : Nat) → i < n → FrameBuffer → FrameBuffer} (number : Nat → Nat → Nat)
    (round : ∀ (i : Nat) h fb', fb'.layout = fb.layout →
      Encoded (fun x y => if number x y = i then rule x y else none) fb' (f i h fb')) :
    Encoded (fun x y => if number x y < n then rule x y else none) fb (n.fold f fb) := by
  apply Loop.progress
    (motive := fun k => Encoded (fun x y => if number x y < k then rule x y else none) fb)
  . apply idle.congr
    intro x y _ _
    rw [if_neg (Nat.not_lt_zero _)]
  . intro k hk fb' before
    apply (before.trans (round k hk fb' before.layout)).congr
    intro x y _ _
    by_cases last : number x y = k
    . rw [if_pos last, if_neg (by omega), if_pos (by omega), Option.or_none]
    . rw [if_neg last, Option.none_or]
      by_cases earlier : number x y < k
      . rw [if_pos earlier, if_pos (by omega)]
      . rw [if_neg earlier, if_neg (by omega)]

theorem unique (h : Encoded rule fb fb') (h' : Encoded rule fb fb'') : fb' = fb'' := by
  apply eq_of_byteAt (h.layout.trans h'.layout.symm)
  . intro x y k hx hy hk
    rw [h.layout] at hx hy hk
    rw [h.byte x y k hx hy hk, h'.byte x y k hx hy hk]
  . intro i
    rw [h.padding, h'.padding]

theorem painted (ink : Int → Int → Option Color) (h : Encoded (fun x y => ink x y) fb fb') :
    Painted (fun p => ink p.x.val p.y.val) fb fb' where
  toSameShape := sameShape h.layout
  pixel p := by
    show fb'.pixel? p = (fb.pixel? p).map _
    have bounds : fb'.bounds = fb.bounds := by rw [FrameBuffer.bounds, h.layout, FrameBuffer.bounds]
    by_cases seen : fb.bounds.contains p = true
    . have seen' : fb'.bounds.contains p = true := by
        rw [bounds]
        exact seen
      have bpp : 3 ≤ fb.layout.bytesPerPixel := fb.layout.format.three_le_bytesPerPixel
      obtain ⟨⟨x_nonneg, hx⟩, y_nonneg, hy⟩ := fb.valid.contains_size.mp seen
      have bytes (k : Nat) (hk : k < 3) :=
        h.byte p.x.toNat p.y.toNat k (by rw [Coord.toNat]; omega) (by rw [Coord.toNat]; omega) (by omega)
      simp only [Coord.toNat, Int.toNat_of_nonneg x_nonneg, Int.toNat_of_nonneg y_nonneg] at bytes
      obtain ⟨old, read⟩ : ∃ old, fb.pixel? p = some old := ⟨_, pixel?_eq seen⟩
      cases color : ink p.x.val p.y.val with
      | none =>
        rw [color] at bytes
        rw [pixel?_of_bytes (by rw [h.layout]) seen' seen bytes, read]
        rfl
      | some color' =>
        rw [color, ← h.layout] at bytes
        rw [pixel?_of_encode seen' bytes, read]
        rfl
    . rw [pixel?, bounds, if_neg seen, pixel?, if_neg seen]
      rfl
  padding := h.padding

end Encoded

theorem encoded_writePixel {x y : Nat} (hx : x < fb.layout.width) (hy : y < fb.layout.height)
    (color : Color) :
    Encoded (fun x' y' => if x' = x ∧ y' = y then some color else none) fb (fb.writePixel x y color) where
  layout := layout_writePixel ..
  byte x' y' k hx' hy' hk := by
    have place := fits (n := 1) hx hy
    rw [Nat.one_mul] at place
    have room : fb.layout.offset x y + (fb.layout.format.encode color).length
        ≤ (Storage.bytes fb.data).length := by
      rw [PixelFormat.length_encode]
      exact place
    rw [byteAt?, layout_writePixel, bytes_writePixel place]
    by_cases hit : x' = x ∧ y' = y
    . rw [if_pos hit, hit.1, hit.2]
      apply getElem?_splice_inside room
      rw [PixelFormat.length_encode]
      exact hk
    . rw [if_neg hit]
      apply getElem?_splice_outside room
      rw [PixelFormat.length_encode]
      have other : ¬(y' = y ∧ x ≤ x' ∧ x' < x + 1) := by omega
      have apart := fb.valid.offset_apart hx hx' other hk
      rw [Nat.one_mul] at apart
      exact apart
  padding := (painted_writePixel hx hy color).padding

theorem encoded_plot {x y : Nat} (hx : x < fb.layout.width) (hy : y < fb.layout.height)
    (color : Option Color) :
    Encoded (fun x' y' => if x' = x ∧ y' = y then color else none) fb (Canvas.plot fb x y color) := by
  cases color with
  | none =>
    apply Encoded.idle.congr
    intro x' y' _ _
    rw [ite_self]
  | some color => exact encoded_writePixel hx hy color

theorem encoded_plotAll (fb : FrameBuffer) (rule : Nat → Nat → Option Color) :
    Encoded rule fb (Canvas.plotAll fb rule) := by
  have rows : Encoded (fun x y => if y < fb.layout.height then rule x y else none) fb
      (Canvas.plotAll fb rule) := by
    apply Encoded.loop fun _ y => y
    intro y hy fb' layout
    replace hy : y < fb'.layout.height := by
      rw [layout]
      exact hy
    have columns : Encoded
        (fun x' y' => if x' < fb.layout.width then if y' = y then rule x' y' else none else none) fb'
        (Nat.fold fb.layout.width (fun x _ s => Canvas.plot s x y (rule x y)) fb') := by
      apply Encoded.loop fun x _ => x
      intro x hx fb'' layout'
      apply (encoded_plot (by rw [layout', layout]; exact hx) (by rw [layout']; exact hy) (rule x y)).congr
      intro x' y' _ _
      by_cases column_hit : x' = x
      . by_cases row_hit : y' = y
        . rw [if_pos ⟨column_hit, row_hit⟩, if_pos column_hit, if_pos row_hit, column_hit, row_hit]
        . rw [if_neg (by omega), if_pos column_hit, if_neg row_hit]
      . rw [if_neg (by omega), if_neg column_hit]
    apply columns.congr
    intro x' y' hx _
    rw [layout] at hx
    rw [if_pos hx]
  apply rows.congr
  intro x y _ hy
  rw [if_pos hy]

end FrameBuffer
end Overlay
