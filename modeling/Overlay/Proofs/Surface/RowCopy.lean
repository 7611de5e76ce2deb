import Overlay.Proofs.Surface.Encoded
import Overlay.Proofs.Surface.Screen

/-!
This module contains the two ways to store a row of pixels: as one run of bytes if it is in the format of the
surface, and pixel by pixel. They differ in the reserved bytes only, which the run brings along and the pixels
set to zero.
-/

namespace Overlay

open Readable

abbrev Canvas.copyRowPlainly {σ : Type} [Canvas σ] (s : σ) (x y : Nat) (row : ByteArray)
    (format : PixelFormat) : σ :=
  copyPixels (fun s x color => writePixel s x y color) s x row format

open Canvas (copyRowPlainly)

def Layout.Reserved (l : Layout) (x y n i : Nat) : Prop :=
  l.bytesPerPixel = 4 ∧ ∃ j, j < n ∧ i = l.offset (x + j) y + 3

structure RowsAlike {σ : Type} [Canvas σ] [Readable σ] (memory : σ → ByteArray) (layout : Layout) (x y n : Nat)
    (row : ByteArray) (format : PixelFormat) (bulk plain : σ) : Prop where
  pixel : ∀ p, pixel? bulk p = pixel? plain p
  byte : ∀ i, ¬layout.Reserved x y n i →
    (Storage.bytes (memory bulk))[i]? = (Storage.bytes (memory plain))[i]?
  zeroed : ∀ i, layout.Reserved x y n i → (Storage.bytes (memory plain))[i]? = some 0
  brought : format = layout.format → layout.bytesPerPixel = 4 → ∀ j, j < n →
    (Storage.bytes (memory bulk))[layout.offset (x + j) y + 3]? = (Storage.bytes row)[j * 4 + 3]?
  alike : (format = layout.format → layout.bytesPerPixel = 4 → ∀ j, j < n →
    (Storage.bytes row)[j * 4 + 3]? = some 0) → bulk = plain

namespace FrameBuffer

variable {fb : FrameBuffer} {x y n : Nat} {row : ByteArray} {format : PixelFormat}
  (hx : x + n ≤ fb.layout.width) (hy : y < fb.layout.height) (hn : row.size = n * format.bytesPerPixel)
include hx hy hn

theorem encoded_copyPixels :
    Encoded
      (fun x' y' =>
        if y' = y ∧ x ≤ x' ∧ x' < x + n then
          some (format.decodeAt row ((x' - x) * format.bytesPerPixel))
        else
          none)
      fb (copyRowPlainly fb x y row format) := by
  let rule (x' y' : Nat) : Option Color :=
    if y' = y ∧ x ≤ x' then some (format.decodeAt row ((x' - x) * format.bytesPerPixel)) else none
  have count : row.size / format.bytesPerPixel = n := by
    rw [hn, Nat.mul_div_cancel _ format.bytesPerPixel_pos]
  have stored : Encoded (fun x' y' => if x' - x < n then rule x' y' else none) fb
      (copyRowPlainly fb x y row format) := by
    unfold copyRowPlainly copyPixels
    rw [count]
    apply Encoded.loop fun x' _ => x' - x
    intro i hi fb' layout
    apply (encoded_writePixel (by rw [layout]; omega) (by rw [layout]; exact hy) _).congr
    intro x' y' _ _
    by_cases hit : x' = x + i ∧ y' = y
    . rw [if_pos hit, if_pos (by omega), hit.1, hit.2]
      simp only [rule, Nat.add_sub_cancel_left, Nat.le_add_right, and_self, if_true]
    . rw [if_neg hit]
      by_cases column : x' - x = i
      . rw [if_pos column]
        exact (if_neg (by omega)).symm
      . rw [if_neg column]
  apply stored.congr
  intro x' y' _ _
  by_cases hit : y' = y ∧ x ≤ x' ∧ x' < x + n
  . rw [if_pos (by omega), if_pos hit]
    exact if_pos ⟨hit.1, hit.2.1⟩
  . rw [if_neg hit]
    by_cases column : x' - x < n
    . rw [if_pos column]
      exact if_neg (by omega)
    . rw [if_neg column]

theorem layout_copyPixels :
    (copyRowPlainly fb x y row format).layout = fb.layout :=
  (encoded_copyPixels hx hy hn).layout

theorem reserved_copyPixels {i : Nat} (reserved : fb.layout.Reserved x y n i) :
    (Storage.bytes (copyRowPlainly fb x y row format).data)[i]? = some 0 := by
  obtain ⟨four, j, hj, rfl⟩ := reserved
  have stored := encoded_copyPixels hx hy hn
  have byte := stored.byte (x + j) y 3 (by omega) hy (by omega)
  rw [byteAt?, stored.layout, if_pos ⟨rfl, by omega, by omega⟩] at byte
  exact byte.trans (PixelFormat.encode_reserved _ four _)

end FrameBuffer

namespace FrameBuffer

variable {fb : FrameBuffer} {x y n : Nat} {row : ByteArray} (hx : x + n ≤ fb.layout.width)
  (hy : y < fb.layout.height) (hn : row.size = n * fb.layout.bytesPerPixel)
include hx hy hn

theorem bytes_run : Storage.bytes (fb.copyRow x y row fb.layout.format).data
      =
    splice (Storage.bytes fb.data) (fb.layout.offset x y) (Storage.bytes row) := by
  apply bytes_copyRow
  rw [hn]
  exact fits hx hy

theorem byteAt?_run {j k : Nat} (hj : j < n) (hk : k < fb.layout.bytesPerPixel) :
    (fb.copyRow x y row fb.layout.format).byteAt? (x + j) y k
      =
    (Storage.bytes row)[j * fb.layout.bytesPerPixel + k]? := by
  rw [byteAt?, layout_copyRow]
  exact byte_splice_inside hx hy hn (bytes_run hx hy hn) hj hk

theorem byteAt?_run_eq {x' y' k : Nat} (hx' : x' < fb.layout.width) (hy' : y' < fb.layout.height)
    (hk : k < fb.layout.bytesPerPixel)
    (free : ¬fb.layout.Reserved x y n (fb.layout.offset x' y' + k)) :
    (fb.copyRow x y row fb.layout.format).byteAt? x' y' k
      =
    (copyRowPlainly fb x y row fb.layout.format).byteAt? x' y' k := by
  rw [(encoded_copyPixels hx hy hn).byte x' y' k hx' hy' hk]
  by_cases hit : y' = y ∧ x ≤ x' ∧ x' < x + n
  . obtain ⟨rfl, left, right⟩ := hit
    obtain ⟨j, rfl⟩ := Nat.exists_eq_add_of_le left
    have last : (j + 1) * fb.layout.bytesPerPixel ≤ n * fb.layout.bytesPerPixel :=
      Nat.mul_le_mul_right _ (by omega)
    have three : 3 ≤ fb.layout.bytesPerPixel := fb.layout.format.three_le_bytesPerPixel
    have four : fb.layout.bytesPerPixel ≤ 4 := fb.layout.format.bytesPerPixel_le_four
    have colored : k < 3 := by
      apply Decidable.byContradiction
      intro past
      obtain rfl : k = 3 := by omega
      exact free ⟨by omega, j, by omega, rfl⟩
    have room : j * fb.layout.bytesPerPixel + 3 ≤ row.size := by
      rw [Nat.succ_mul] at last
      omega
    rw [byteAt?_run hx hy hn (by omega) hk, if_pos ⟨rfl, left, right⟩, Nat.add_sub_cancel_left]
    exact (fb.layout.format.encode_decodeAt room colored).symm
  . rw [if_neg hit, byteAt?, layout_copyRow]
    exact byte_splice_outside hx hy hn (bytes_run hx hy hn) hx' hit hk

theorem byte_run_eq {i : Nat} (free : ¬fb.layout.Reserved x y n i) :
    (Storage.bytes (fb.copyRow x y row fb.layout.format).data)[i]?
      =
    (Storage.bytes (copyRowPlainly fb x y row fb.layout.format).data)[i]? := by
  apply byte_congr
  . rw [layout_copyRow, layout_copyPixels hx hy hn]
  . intro x' y' k hx' hy' hk place
    rw [layout_copyRow] at hx' hy' hk place
    subst place
    exact byteAt?_run_eq hx hy hn hx' hy' hk free
  . rw [(painted_copyRow hx hy hn).padding, (encoded_copyPixels hx hy hn).padding]

theorem reserved_run (four : fb.layout.bytesPerPixel = 4) {j : Nat} (hj : j < n) :
    (Storage.bytes (fb.copyRow x y row fb.layout.format).data)[fb.layout.offset (x + j) y + 3]?
      =
    (Storage.bytes row)[j * 4 + 3]? := by
  have run := byteAt?_run hx hy hn hj (k := 3) (by omega)
  rw [byteAt?, layout_copyRow, four] at run
  exact run

theorem run_eq_of_clear
    (clear : fb.layout.bytesPerPixel = 4 → ∀ j, j < n → (Storage.bytes row)[j * 4 + 3]? = some 0) :
    fb.copyRow x y row fb.layout.format = copyRowPlainly fb x y row fb.layout.format := by
  apply eq_of_bytes
  . rw [layout_copyRow, layout_copyPixels hx hy hn]
  . apply List.ext_getElem?
    intro i
    by_cases reserved : fb.layout.Reserved x y n i
    . rw [reserved_copyPixels hx hy hn reserved]
      obtain ⟨four, j, hj, rfl⟩ := reserved
      rw [reserved_run hx hy hn four hj, clear four j hj]
    . exact byte_run_eq hx hy hn reserved

end FrameBuffer

theorem FrameBuffer.rowsAlike (fb : FrameBuffer) {x y n : Nat} {row : ByteArray} {format : PixelFormat}
    (hx : x + n ≤ fb.layout.width) (hy : y < fb.layout.height) (hn : row.size = n * format.bytesPerPixel) :
    RowsAlike data fb.layout x y n row format (Canvas.copyRow fb x y row format)
      (copyRowPlainly fb x y row format) := by
  have bulk : Painted _ fb (Canvas.copyRow fb x y row format) := painted_copyRow hx hy hn
  have plain : Painted _ fb (copyRowPlainly fb x y row format) :=
    painted_copyPixels (fun _ _ _ color _ hx hy => painted_writePixel hx hy color) trivial hx hy hn
  constructor
  . intro p
    rw [bulk.pixel, plain.pixel]
  . intro i free
    by_cases same : format = fb.layout.format
    . subst same
      exact byte_run_eq hx hy hn free
    . have decoded : Canvas.copyRow fb x y row format = copyRowPlainly fb x y row format := if_neg same
      rw [decoded]
  . intro i reserved
    exact reserved_copyPixels hx hy hn reserved
  . rintro rfl four j hj
    exact reserved_run hx hy hn four hj
  . intro clear
    by_cases same : format = fb.layout.format
    . subst same
      exact run_eq_of_clear hx hy hn (clear rfl)
    . exact if_neg same

theorem Screen.rowsAlike (screen : Screen) {x y n : Nat} {row : ByteArray} {format : PixelFormat}
    (hx : x + n ≤ screen.layout.width) (hy : y < screen.layout.height)
    (hn : row.size = n * format.bytesPerPixel) :
    RowsAlike memory screen.layout x y n row format (Canvas.copyRow screen x y row format)
      (copyRowPlainly screen x y row format) := by
  have bulk : (Canvas.copyRow screen x y row format).toBuffer = Canvas.copyRow screen.toBuffer x y row format :=
    toBuffer_copyRow screen x y row format
  have plain : (copyRowPlainly screen x y row format).toBuffer = copyRowPlainly screen.toBuffer x y row format :=
    toBuffer_copyPixels screen x y row format
  have alike := screen.toBuffer.rowsAlike hx hy hn
  rw [← bulk, ← plain] at alike
  exact ⟨alike.pixel, alike.byte, alike.zeroed, alike.brought, fun clear => toBuffer_inj (alike.alike clear)⟩

/-- A row that is copied at once leaves the colours that its pixels leave one by one, from any format to any
other, up to the last pixel of a surface. The bytes are the same too, but for the reserved ones: these come from
the row if they are copied at once, and are zero else. -/
theorem copyRow_decodes_alike {x y n : Nat} {row : ByteArray} {format : PixelFormat}
    (hn : row.size = n * format.bytesPerPixel) :
    (∀ fb : FrameBuffer, x + n ≤ fb.layout.width → y < fb.layout.height →
      RowsAlike FrameBuffer.data fb.layout x y n row format (Canvas.copyRow fb x y row format)
        (copyRowPlainly fb x y row format))
      ∧ ∀ screen : Screen, x + n ≤ screen.layout.width → y < screen.layout.height →
        RowsAlike Screen.memory screen.layout x y n row format (Canvas.copyRow screen x y row format)
          (copyRowPlainly screen x y row format) :=
  ⟨fun fb hx hy => fb.rowsAlike hx hy hn, fun screen hx hy => screen.rowsAlike hx hy hn⟩

theorem copyRow_decodes_alike_up_to_last_pixel :
    let row : ByteArray := ⟨#[1, 2, 3, 9, 4, 5, 6, 7]⟩
    ∃ fb, FrameBuffer.packed? 3 2 .rgbx8888 = .ok fb ∧ row.size = 2 * PixelFormat.rgbx8888.bytesPerPixel
      ∧ RowsAlike FrameBuffer.data fb.layout 1 1 2 row .rgbx8888 (Canvas.copyRow fb 1 1 row .rgbx8888)
        (copyRowPlainly fb 1 1 row .rgbx8888) := by
  intro row
  rw [FrameBuffer.packed?, FrameBuffer.ofLayout?, dif_pos (by decide)]
  refine ⟨_, rfl, rfl, ?_⟩
  apply (copyRow_decodes_alike rfl).1
  . exact Nat.le_refl 3
  . exact Nat.lt_succ_self 1

end Overlay
