import Overlay.Pixel.Format
import Overlay.Proofs.Pixel.Splice

/-!
This module contains rows of encoded colours. All encodings of one format have the same length, so that
cutting and splicing bytes at whole pixels is cutting and splicing colours, and reading a row back gives
the colours that were encoded.
-/

namespace Overlay
namespace PixelFormat

variable (format : PixelFormat)

theorem bytesPerPixel_pos : 0 < format.bytesPerPixel := by
  cases format <;> decide

theorem three_le_bytesPerPixel : 3 ≤ format.bytesPerPixel := by
  cases format <;> decide

theorem bytesPerPixel_le_four : format.bytesPerPixel ≤ 4 := by
  cases format <;> decide

theorem take_encodeInto (color : Color) {out : ByteArray} (room : format.bytesPerPixel ≤ out.size) :
    (Storage.bytes (format.encodeInto color out)).take format.bytesPerPixel = format.encode color := by
  have fits : 0 + (format.encode color).length ≤ out.size := by
    rw [length_encode, Nat.zero_add]
    exact room
  rw [encodeInto, if_neg (Nat.not_lt.mpr room), Storage.bytes_write fits, splice, List.take_zero,
    List.nil_append, ← length_encode format color, List.take_left]

def encodeAll (colors : List Color) : List UInt8 := colors.flatMap format.encode

theorem encodeAll_cons (color : Color) (colors : List Color) :
    format.encodeAll (color :: colors) = format.encode color ++ format.encodeAll colors :=
  List.flatMap_cons

@[simp]
theorem length_encodeAll (colors : List Color) :
    (format.encodeAll colors).length = colors.length * format.bytesPerPixel := by
  induction colors with
  | nil => simp [encodeAll]
  | cons color colors ih =>
    rw [encodeAll_cons, List.length_append, length_encode, ih]
    rw [List.length_cons, Nat.succ_mul, Nat.add_comm]

theorem encodeAll_append (front back : List Color) :
    format.encodeAll (front ++ back) = format.encodeAll front ++ format.encodeAll back :=
  List.flatMap_append

theorem encodeAll_singleton (color : Color) : format.encodeAll [color] = format.encode color :=
  List.flatMap_singleton ..

theorem encodeAll_take (n : Nat) (colors : List Color) :
    format.encodeAll (colors.take n) = (format.encodeAll colors).take (n * format.bytesPerPixel) := by
  induction colors generalizing n with
  | nil => simp [encodeAll]
  | cons color colors ih =>
    cases n with
    | zero => simp [encodeAll]
    | succ n =>
      rw [List.take_succ_cons, encodeAll_cons, encodeAll_cons, ih, List.take_append, length_encode,
        Nat.succ_mul, Nat.add_sub_cancel]
      rw [List.take_of_length_le (l := format.encode color)]
      rw [length_encode]
      exact Nat.le_add_left ..

theorem encodeAll_drop (n : Nat) (colors : List Color) :
    format.encodeAll (colors.drop n) = (format.encodeAll colors).drop (n * format.bytesPerPixel) := by
  induction colors generalizing n with
  | nil => simp [encodeAll]
  | cons color colors ih =>
    cases n with
    | zero => simp
    | succ n =>
      rw [List.drop_succ_cons, encodeAll_cons, ih, List.drop_append, length_encode, Nat.succ_mul,
        Nat.add_sub_cancel]
      rw [List.drop_of_length_le (l := format.encode color)]
      . rfl
      . rw [length_encode]
        exact Nat.le_add_left ..

theorem encodeAll_splice (colors : List Color) (i : Nat) (run : List Color) :
    format.encodeAll (splice colors i run)
      =
    splice (format.encodeAll colors) (i * format.bytesPerPixel) (format.encodeAll run) := by
  rw [splice, splice, encodeAll_append, encodeAll_append, encodeAll_take, encodeAll_drop]
  rw [length_encodeAll, ← Nat.add_mul]

theorem getElem?_encodeAll {colors : List Color} {i k : Nat} {color : Color}
    (hi : colors[i]? = some color) (hk : k < format.bytesPerPixel) :
    (format.encodeAll colors)[i * format.bytesPerPixel + k]? = (format.encode color)[k]? := by
  obtain ⟨lt, eq⟩ := List.getElem?_eq_some_iff.mp hi
  rw [← List.getElem?_drop, ← encodeAll_drop, List.drop_eq_getElem_cons lt, eq, encodeAll_cons]
  rw [List.getElem?_append_left]
  rw [length_encode]
  exact hk

def ofBytes (first second third : UInt8) : Color :=
  if format.isBgr then ⟨third, second, first⟩ else ⟨first, second, third⟩

theorem decodeAt_eq (data : ByteArray) (i : Nat) :
    format.decodeAt data i
      =
    match (Storage.bytes data)[i]?, (Storage.bytes data)[i + 1]?, (Storage.bytes data)[i + 2]? with
    | some first, some second, some third => format.ofBytes first second third
    | _, _, _ => .black := by
  unfold decodeAt
  split
  . next h =>
    have at_index : ∀ k (hk : k < data.size), (Storage.bytes data)[k]? = some data[k] := by
      intro k hk
      exact List.getElem?_eq_getElem hk
    rw [at_index i (by omega), at_index (i + 1) (by omega), at_index (i + 2) (by omega)]
    rfl
  . next h =>
    have past : (Storage.bytes data)[i + 2]? = none := by
      rw [List.getElem?_eq_none_iff, Storage.length_bytes]
      omega
    rw [past]
    split <;> simp_all

theorem decodeAt_congr {a b : ByteArray} {i j : Nat}
    (h : ∀ k, k < 3 → (Storage.bytes a)[i + k]? = (Storage.bytes b)[j + k]?) :
    format.decodeAt a i = format.decodeAt b j := by
  have first := h 0 (by omega)
  rw [Nat.add_zero, Nat.add_zero] at first
  rw [decodeAt_eq, decodeAt_eq, first, h 1 (by omega), h 2 (by omega)]

theorem decodeAt_zeros (n i : Nat) : format.decodeAt (Storage.zeros n) i = .black := by
  have zero : ∀ {k : Nat} {byte : UInt8}, (List.replicate n (0 : UInt8))[k]? = some byte → byte = 0 := by
    intro k byte stored
    exact List.eq_of_mem_replicate (List.mem_of_getElem? stored)
  rw [decodeAt_eq, Storage.bytes_zeros]
  split
  . next first second third =>
    rw [zero first, zero second, zero third]
    exact ite_self _
  . rfl

theorem decodeAt_of_encode {data : ByteArray} {i : Nat} {color : Color}
    (h : ∀ k, k < 3 → (Storage.bytes data)[i + k]? = (format.encode color)[k]?) :
    format.decodeAt data i = color := by
  have first := h 0 (by omega)
  rw [Nat.add_zero] at first
  rw [decodeAt_eq, first, h 1 (by omega), h 2 (by omega)]
  cases format <;> rfl

theorem encode_decodeAt {data : ByteArray} {i k : Nat} (fits : i + 3 ≤ data.size) (hk : k < 3) :
    (format.encode (format.decodeAt data i))[k]? = (Storage.bytes data)[i + k]? := by
  have stored (k : Nat) (hk : k < 3) : ∃ byte, (Storage.bytes data)[i + k]? = some byte :=
    ⟨_, List.getElem?_eq_getElem (by rw [Storage.length_bytes]; omega)⟩
  obtain ⟨first, first_eq⟩ := stored 0 (by omega)
  obtain ⟨second, second_eq⟩ := stored 1 (by omega)
  obtain ⟨third, third_eq⟩ := stored 2 (by omega)
  have place : k = 0 ∨ k = 1 ∨ k = 2 := by omega
  rw [decodeAt_eq, ← Nat.add_zero i, first_eq, Nat.add_zero, second_eq, third_eq]
  rcases place with rfl | rfl | rfl
  . rw [first_eq]
    cases format <;> rfl
  . rw [second_eq]
    cases format <;> rfl
  . rw [third_eq]
    cases format <;> rfl

theorem encode_reserved (reserved : format.bytesPerPixel = 4) (color : Color) :
    (format.encode color)[3]? = some 0 := by
  cases format with
  | rgbx8888 => rfl
  | bgrx8888 => rfl
  | rgb888 => cases reserved
  | bgr888 => cases reserved

theorem decodeAt_of_encodeAll {data : ByteArray} {colors : List Color}
    (h : Storage.bytes data = format.encodeAll colors) {i : Nat} {color : Color}
    (hi : colors[i]? = some color) :
    format.decodeAt data (i * format.bytesPerPixel) = color := by
  apply decodeAt_of_encode
  intro k hk
  have := format.three_le_bytesPerPixel
  rw [h]
  apply getElem?_encodeAll
  . exact hi
  . omega

theorem size_extract_div (row : ByteArray) (n : Nat) :
    (row.extract 0 (n * format.bytesPerPixel)).size / format.bytesPerPixel
      =
    min n (row.size / format.bytesPerPixel) := by
  rw [ByteArray.size_extract]
  cases format <;> simp only [bytesPerPixel] <;> omega

theorem decodeAt_extract (row : ByteArray) {i n : Nat} (lt : i < n) :
    format.decodeAt (row.extract 0 (n * format.bytesPerPixel)) (i * format.bytesPerPixel)
      =
    format.decodeAt row (i * format.bytesPerPixel) := by
  apply decodeAt_congr
  intro k hk
  have prefix_eq := Storage.bytes_extract row 0 (n * format.bytesPerPixel)
  rw [Nat.zero_add, List.drop_zero] at prefix_eq
  rw [prefix_eq, List.getElem?_take_of_lt]
  cases format <;> simp only [bytesPerPixel] <;> omega

end PixelFormat
end Overlay
