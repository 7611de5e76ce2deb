import Overlay.Proofs.Canvas.Painted
import Overlay.Proofs.Pixel.Layout
import Overlay.Surface.FrameBuffer

/-!
This module contains the laws of frame buffers. All that is stored in one is a run of bytes, spliced into
its memory at the place of a strip.
-/

namespace Overlay
namespace FrameBuffer

variable {fb : FrameBuffer}

theorem eq_of_bytes {a b : FrameBuffer} (layout : a.layout = b.layout)
    (bytes : Storage.bytes a.data = Storage.bytes b.data) : a = b := by
  cases a
  cases b
  have := Storage.eq_of_bytes bytes
  simp_all

@[simp]
theorem data_mapData (fb : FrameBuffer) (f : ByteArray → ByteArray)
    (h : ∀ data, (f data).size = data.size) : (fb.mapData f h).data = f fb.data := rfl

theorem bytes_writePixel {x y : Nat}
    (fits : fb.layout.offset x y + fb.layout.bytesPerPixel ≤ fb.data.size) (color : Color) :
    Storage.bytes (fb.writePixel x y color).data
      =
    splice (Storage.bytes fb.data) (fb.layout.offset x y) (fb.layout.format.encode color) := by
  unfold writePixel
  dsimp only
  rw [if_pos fits, data_mapData, Storage.bytes_write]
  rw [PixelFormat.length_encode]
  exact fits

theorem bytes_copyRow {x y : Nat} {row : ByteArray}
    (fits : fb.layout.offset x y + row.size ≤ fb.data.size) :
    Storage.bytes (fb.copyRow x y row fb.layout.format).data
      =
    splice (Storage.bytes fb.data) (fb.layout.offset x y) (Storage.bytes row) := by
  unfold copyRow
  dsimp only
  rw [if_pos rfl, data_mapData, Storage.bytes_overwrite fits]

def byteAt? (fb : FrameBuffer) (x y k : Nat) : Option UInt8 :=
  (Storage.bytes fb.data)[fb.layout.offset x y + k]?

theorem fits {x y n : Nat} (hx : x + n ≤ fb.layout.width) (hy : y < fb.layout.height) :
    fb.layout.offset x y + n * fb.layout.bytesPerPixel ≤ fb.data.size := by
  rw [fb.size_data]
  exact fb.valid.offset_fits hx hy

theorem row_fits {x y n : Nat} {row : ByteArray} (hx : x + n ≤ fb.layout.width)
    (hy : y < fb.layout.height) (hn : row.size = n * fb.layout.bytesPerPixel) :
    fb.layout.offset x y + (Storage.bytes row).length ≤ (Storage.bytes fb.data).length := by
  rw [Storage.length_bytes, Storage.length_bytes, hn]
  exact fits hx hy

theorem pixel?_eq {p : Point} (h : fb.bounds.contains p = true) :
    fb.pixel? p
      =
    some (fb.layout.format.decodeAt fb.data (fb.layout.offset p.x.toNat p.y.toNat)) := by
  rw [pixel?, if_pos h]

theorem pixel?_of_bytes {fb' : FrameBuffer} {p q : Point} (format : fb'.layout.format = fb.layout.format)
    (seen : fb'.bounds.contains p = true) (seen' : fb.bounds.contains q = true)
    (bytes : ∀ k, k < 3 → fb'.byteAt? p.x.toNat p.y.toNat k = fb.byteAt? q.x.toNat q.y.toNat k) :
    fb'.pixel? p = fb.pixel? q := by
  rw [pixel?_eq seen, pixel?_eq seen', format, Option.some_inj]
  exact PixelFormat.decodeAt_congr _ bytes

theorem pixel?_of_encode {p : Point} {color : Color} (seen : fb.bounds.contains p = true)
    (bytes : ∀ k, k < 3 → fb.byteAt? p.x.toNat p.y.toNat k = (fb.layout.format.encode color)[k]?) :
    fb.pixel? p = some color := by
  rw [pixel?_eq seen, Option.some_inj]
  exact PixelFormat.decodeAt_of_encode _ bytes

theorem pixel?_ofLayout? {layout : Layout} (made : ofLayout? layout = .ok fb) {p : Point}
    (seen : fb.bounds.contains p = true) : fb.pixel? p = some .black := by
  rw [pixel?_eq seen, Option.some_inj]
  unfold ofLayout? at made
  split at made
  . cases made
    exact PixelFormat.decodeAt_zeros ..
  . cases made

instance : Readable FrameBuffer where
  pixel? := pixel?
  padding? fb i := if fb.layout.Padding i then (Storage.bytes fb.data)[i]? else none
  Intact _ := True

open Readable

theorem sameShape {fb' : FrameBuffer} (h : fb'.layout = fb.layout) : SameShape fb fb' where
  width := congrArg Layout.width h
  height := congrArg Layout.height h
  format := congrArg Layout.format h
  intact := trivial

section

variable {fb' : FrameBuffer} {x y n : Nat} {row : ByteArray} (hx : x + n ≤ fb.layout.width)
  (hy : y < fb.layout.height) (hn : row.size = n * fb.layout.bytesPerPixel)
  (bytes : Storage.bytes fb'.data
    = splice (Storage.bytes fb.data) (fb.layout.offset x y) (Storage.bytes row))
include hx hy hn bytes

theorem byte_splice_inside {j k : Nat} (hj : j < n) (hk : k < fb.layout.bytesPerPixel) :
    (Storage.bytes fb'.data)[fb.layout.offset (x + j) y + k]?
      =
    (Storage.bytes row)[j * fb.layout.bytesPerPixel + k]? := by
  have last : j * fb.layout.bytesPerPixel + fb.layout.bytesPerPixel
      ≤ n * fb.layout.bytesPerPixel := by
    rw [← Nat.succ_mul]
    exact Nat.mul_le_mul_right _ hj
  rw [bytes, Layout.offset_add, Nat.add_assoc, getElem?_splice_inside (row_fits hx hy hn)]
  rw [Storage.length_bytes, hn]
  omega

theorem byte_splice_outside {px py k : Nat} (hpx : px < fb.layout.width)
    (outside : ¬(py = y ∧ x ≤ px ∧ px < x + n)) (hk : k < fb.layout.bytesPerPixel) :
    (Storage.bytes fb'.data)[fb.layout.offset px py + k]?
      =
    (Storage.bytes fb.data)[fb.layout.offset px py + k]? := by
  rw [bytes, getElem?_splice_outside (row_fits hx hy hn)]
  rw [Storage.length_bytes, hn]
  exact fb.valid.offset_apart hx hpx outside hk

theorem decodeAt_splice_inside {j : Nat} (hj : j < n) :
    fb.layout.format.decodeAt fb'.data (fb.layout.offset (x + j) y)
      =
    fb.layout.format.decodeAt row (j * fb.layout.bytesPerPixel) := by
  have bpp : 3 ≤ fb.layout.bytesPerPixel := fb.layout.format.three_le_bytesPerPixel
  apply PixelFormat.decodeAt_congr
  intro k hk
  exact byte_splice_inside hx hy hn bytes hj (Nat.lt_of_lt_of_le hk bpp)

theorem decodeAt_splice_outside {px py : Nat} (hpx : px < fb.layout.width)
    (outside : ¬(py = y ∧ x ≤ px ∧ px < x + n)) :
    fb.layout.format.decodeAt fb'.data (fb.layout.offset px py)
      =
    fb.layout.format.decodeAt fb.data (fb.layout.offset px py) := by
  have bpp : 3 ≤ fb.layout.bytesPerPixel := fb.layout.format.three_le_bytesPerPixel
  apply PixelFormat.decodeAt_congr
  intro k hk
  exact byte_splice_outside hx hy hn bytes hpx outside (Nat.lt_of_lt_of_le hk bpp)

theorem painted_splice (layout : fb'.layout = fb.layout) :
    Painted
      (.strip x y n fun i => fb.layout.format.decodeAt row (i * fb.layout.bytesPerPixel)) fb fb' where
  toSameShape := sameShape layout
  pixel p := by
    show fb'.pixel? p = (fb.pixel? p).map _
    have bounds : fb'.bounds = fb.bounds := by rw [FrameBuffer.bounds, layout, FrameBuffer.bounds]
    by_cases seen : fb.bounds.contains p = true
    . have seen' : fb'.bounds.contains p = true := by
        rw [bounds]
        exact seen
      rw [pixel?_eq seen, pixel?_eq seen', layout, Option.map_some, Option.some_inj]
      obtain ⟨⟨_, _⟩, _, _⟩ := fb.valid.contains_size.mp seen
      unfold Picture.strip
      by_cases hit : p.y.val = y ∧ x ≤ p.x.val ∧ p.x.val < x + n
      . have column : p.x.toNat = x + (p.x.val - x).toNat := by
          simp only [Coord.toNat]
          omega
        have row_eq : p.y.toNat = y := by
          simp only [Coord.toNat]
          omega
        rw [if_pos hit, Option.getD_some, column, row_eq]
        apply decodeAt_splice_inside hx hy hn bytes
        omega
      . rw [if_neg hit, Option.getD_none]
        apply decodeAt_splice_outside hx hy hn bytes
        . simp only [Coord.toNat]
          omega
        . simp only [Coord.toNat]
          omega
    . rw [pixel?, bounds, if_neg seen, pixel?, if_neg seen]
      rfl
  padding i := by
    show (if fb'.layout.Padding i then _ else _) = if fb.layout.Padding i then _ else _
    rw [layout]
    split
    . next padding =>
      have inside := row_fits hx hy hn
      rw [bytes, getElem?_splice_outside inside]
      rw [Storage.length_bytes, hn]
      exact fb.valid.padding_apart hx padding
    . rfl

end

theorem painted_writePixel {x y : Nat} (hx : x < fb.layout.width) (hy : y < fb.layout.height)
    (color : Color) : Painted (.dot x y color) fb (fb.writePixel x y color) := by
  let row := (fb.layout.format.encode color).toByteArray
  have bytes_row : Storage.bytes row = fb.layout.format.encode color := by
    simp [row, Storage.bytes]
  have hn : row.size = 1 * fb.layout.bytesPerPixel := by
    rw [← Storage.length_bytes, bytes_row, PixelFormat.length_encode, Nat.one_mul]
    rfl
  have place := fits (n := 1) hx hy
  rw [Nat.one_mul] at place
  have stored := bytes_writePixel place color
  rw [← bytes_row] at stored
  apply (painted_splice (n := 1) hx hy hn stored (layout_writePixel ..)).congr
  intro p _
  unfold Picture.strip Picture.dot
  by_cases hit : p.x.val = x ∧ p.y.val = y
  . rw [if_pos (by omega), if_pos hit, hit.1, Int.sub_self, Option.some_inj]
    apply PixelFormat.decodeAt_of_encode
    intro k _
    rw [bytes_row]
    simp
  . rw [if_neg (by omega), if_neg hit]

theorem painted_copyRow {x y n : Nat} {row : ByteArray} {format : PixelFormat}
    (hx : x + n ≤ fb.layout.width) (hy : y < fb.layout.height)
    (hn : row.size = n * format.bytesPerPixel) :
    Painted (.strip x y n fun i => format.decodeAt row (i * format.bytesPerPixel)) fb
      (fb.copyRow x y row format) := by
  by_cases same : format = fb.layout.format
  . subst same
    apply painted_splice hx hy hn _ (layout_copyRow ..)
    apply bytes_copyRow
    rw [hn]
    exact fits hx hy
  . unfold copyRow
    rw [if_neg same]
    apply painted_copyPixels (fun fb x y color _ hx hy => painted_writePixel hx hy color) trivial hx hy
      hn

theorem bytes_copyPixels {x y : Nat} {colors : List Color} {row : ByteArray}
    (hx : x + colors.length ≤ fb.layout.width) (hy : y < fb.layout.height)
    (encoded : Storage.bytes row = fb.layout.format.encodeAll colors)
    (count : row.size / fb.layout.format.bytesPerPixel = colors.length) :
    let fb' := copyPixels (fun fb x color => fb.writePixel x y color) fb x row fb.layout.format
    fb'.layout = fb.layout
      ∧ Storage.bytes fb'.data
        = splice (Storage.bytes fb.data) (fb.layout.offset x y) (Storage.bytes row) := by
  dsimp only
  unfold copyPixels
  rw [count, encoded, ← List.take_length (l := colors), List.length_take, Nat.min_self]
  -- After `k` rounds the encodings of the first `k` colours are in place.
  apply Loop.progress (motive := fun k (fb' : FrameBuffer) => fb'.layout = fb.layout
    ∧ Storage.bytes fb'.data = splice (Storage.bytes fb.data) (fb.layout.offset x y)
        (fb.layout.format.encodeAll (colors.take k)))
  . simp [PixelFormat.encodeAll]
  . rintro k hk fb' ⟨layout, bytes⟩
    have color := List.getElem?_eq_getElem hk
    have decoded := fb.layout.format.decodeAt_of_encodeAll encoded color
    have place : fb'.layout.offset (x + k) y + fb'.layout.bytesPerPixel ≤ fb'.data.size := by
      rw [← Nat.one_mul fb'.layout.bytesPerPixel]
      apply fits
      . rw [layout]
        omega
      . rw [layout]
        exact hy
    constructor
    . rw [layout_writePixel, layout]
    . rw [bytes_writePixel place, decoded, layout, bytes, Layout.offset_add]
      have front : (fb.layout.format.encodeAll (colors.take k)).length
          = k * fb.layout.bytesPerPixel := by
        rw [PixelFormat.length_encodeAll, List.length_take, Nat.min_eq_left (by omega)]
        rfl
      rw [← front, ← splice_append, ← PixelFormat.encodeAll_singleton,
        ← PixelFormat.encodeAll_append]
      . rw [List.take_append_getElem]
      . rw [List.length_append, front, PixelFormat.length_encode, Storage.length_bytes]
        have := fits (n := k + 1) (show x + (k + 1) ≤ fb.layout.width by omega) hy
        rw [Nat.succ_mul] at this
        exact this

theorem copyRow_eq_copyPixels {x y : Nat} {colors : List Color} {row : ByteArray}
    {format : PixelFormat} (hx : x + colors.length ≤ fb.layout.width) (hy : y < fb.layout.height)
    (encoded : Storage.bytes row = format.encodeAll colors) :
    fb.copyRow x y row format
      =
    copyPixels (fun fb x color => fb.writePixel x y color) fb x row format := by
  by_cases same : format = fb.layout.format
  . subst same
    have hn : row.size = colors.length * fb.layout.format.bytesPerPixel := by
      rw [← Storage.length_bytes, encoded, PixelFormat.length_encodeAll]
    have count : row.size / fb.layout.format.bytesPerPixel = colors.length := by
      rw [hn, Nat.mul_div_cancel _ fb.layout.format.bytesPerPixel_pos]
    obtain ⟨layout, bytes⟩ := bytes_copyPixels hx hy encoded count
    apply eq_of_bytes
    . rw [layout_copyRow, layout]
    . rw [bytes, bytes_copyRow]
      rw [hn]
      exact fits hx hy
  . unfold copyRow
    rw [if_neg same]

instance : LawfulCanvas FrameBuffer where
  width_le fb _ := fb.valid.width_le
  height_le fb _ := fb.valid.height_le
  isSome_pixel? fb p _ := by
    show (fb.pixel? p).isSome = fb.bounds.contains p
    unfold pixel?
    cases fb.bounds.contains p <;> rfl
  shape_writePixel fb x y color _ := sameShape (layout_writePixel ..)
  shape_copyRow fb x y row format _ := sameShape (layout_copyRow ..)
  painted_writePixel fb x y color _ hx hy := painted_writePixel hx hy color
  painted_copyRow fb x y n row format _ hx hy hn := painted_copyRow hx hy hn
  copyRow_eq_copyPixels fb x y colors row format _ hx hy encoded :=
    copyRow_eq_copyPixels hx hy encoded

end FrameBuffer
end Overlay
