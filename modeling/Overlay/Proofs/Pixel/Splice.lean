import Overlay.Pixel.Storage

/-!
This module contains the view of byte storage as a list. Writing a run of bytes is, in this view,
splicing a list into another one, which is also what happens to the colours of a window.
-/

namespace Overlay

def splice {α : Type} (l : List α) (i : Nat) (run : List α) : List α :=
  l.take i ++ run ++ l.drop (i + run.length)

section

variable {α : Type} {l run : List α} {i : Nat}

@[simp]
theorem splice_nil (l : List α) (i : Nat) : splice l i [] = l := by
  simp [splice]

theorem length_splice (fits : i + run.length ≤ l.length) : (splice l i run).length = l.length := by
  simp only [splice, List.length_append, List.length_take, List.length_drop]
  omega

theorem getElem?_splice (fits : i + run.length ≤ l.length) (k : Nat) :
    (splice l i run)[k]?
      =
    if i ≤ k ∧ k < i + run.length then run[k - i]? else l[k]? := by
  have front : (l.take i).length = i := by
    rw [List.length_take]
    omega
  rw [splice, List.append_assoc, List.getElem?_append, List.getElem?_append, front]
  split
  . rw [List.getElem?_take_of_lt (by assumption), if_neg (by omega)]
  . split
    . rw [if_pos (by omega)]
    . rw [List.getElem?_drop, if_neg (by omega)]
      congr 1
      omega

theorem getElem?_splice_outside (fits : i + run.length ≤ l.length) {k : Nat}
    (outside : k < i ∨ i + run.length ≤ k) : (splice l i run)[k]? = l[k]? := by
  rw [getElem?_splice fits, if_neg (by omega)]

theorem getElem?_splice_inside (fits : i + run.length ≤ l.length) {k : Nat} (inside : k < run.length) :
    (splice l i run)[i + k]? = run[k]? := by
  rw [getElem?_splice fits, if_pos (by omega), Nat.add_sub_cancel_left]

theorem splice_append (front back : List α) (fits : i + (front ++ back).length ≤ l.length) :
    splice l i (front ++ back) = splice (splice l i front) (i + front.length) back := by
  rw [List.length_append] at fits
  have front_fits : i + front.length ≤ l.length := by omega
  have back_fits : i + front.length + back.length ≤ (splice l i front).length := by
    rw [length_splice front_fits]
    omega
  apply List.ext_getElem?
  intro k
  rw [getElem?_splice back_fits, getElem?_splice front_fits,
    getElem?_splice (by rw [List.length_append]; exact fits), List.length_append]
  by_cases before : k < i
  . rw [if_neg (by omega), if_neg (by omega), if_neg (by omega)]
  . by_cases in_front : k < i + front.length
    . rw [if_pos (by omega), if_neg (by omega), if_pos (by omega)]
      rw [List.getElem?_append_left (by omega)]
    . by_cases in_back : k < i + front.length + back.length
      . rw [if_pos (by omega), if_pos (by omega)]
        rw [List.getElem?_append_right (by omega), Nat.sub_sub]
      . rw [if_neg (by omega), if_neg (by omega), if_neg (by omega)]

theorem set_eq_splice (x : α) (fits : i < l.length) : l.set i x = splice l i [x] := by
  rw [List.set_eq_take_append_cons_drop, if_pos fits, splice]
  simp

end

namespace Storage

def bytes (data : ByteArray) : List UInt8 := data.data.toList

@[simp]
theorem length_bytes (data : ByteArray) : (bytes data).length = data.size := rfl

theorem eq_of_bytes {a b : ByteArray} (h : bytes a = bytes b) : a = b :=
  ByteArray.ext (Array.toList_inj.mp h)

@[simp]
theorem bytes_zeros (n : Nat) : bytes (zeros n) = List.replicate n 0 := by
  suffices ∀ acc, bytes (zeros.go n acc) = bytes acc ++ List.replicate n 0 from this _
  induction n with
  | zero =>
    intro acc
    simp [zeros.go]
  | succ n ih =>
    intro acc
    rw [zeros.go, ih, List.replicate_succ]
    simp [bytes]

theorem bytes_set! (data : ByteArray) (i : Nat) (byte : UInt8) :
    bytes (data.set! i byte) = (bytes data).set i byte :=
  Array.toList_setIfInBounds

theorem bytes_write {data : ByteArray} {offset : Nat} {run : List UInt8}
    (fits : offset + run.length ≤ data.size) :
    bytes (write data offset run) = splice (bytes data) offset run := by
  induction run generalizing data offset with
  | nil => rw [write, splice_nil]
  | cons byte run ih =>
    have fits_tail : offset + 1 + run.length ≤ (data.set! offset byte).size := by
      rw [ByteArray.size_set!]
      rw [List.length_cons] at fits
      omega
    rw [write, ih fits_tail, bytes_set!]
    rw [set_eq_splice byte (by rw [length_bytes]; rw [List.length_cons] at fits; omega)]
    have whole := splice_append (l := bytes data) (i := offset) [byte] run fits
    rw [List.singleton_append] at whole
    exact whole.symm

theorem bytes_extract (data : ByteArray) (start length : Nat) :
    bytes (data.extract start (start + length)) = ((bytes data).drop start).take length := by
  simp [bytes]

theorem bytes_overwrite {data : ByteArray} {offset : Nat} {run : ByteArray}
    (fits : offset + run.size ≤ data.size) :
    bytes (overwrite data offset run) = splice (bytes data) offset (bytes run) := by
  rw [overwrite, if_pos fits, ByteArray.copySlice_eq_append]
  have rest : (data.data.toList.drop (offset + run.size)).take (data.size - (offset + run.size))
      = data.data.toList.drop (offset + run.size) := by
    apply List.take_of_length_le
    apply Nat.le_of_eq
    rw [List.length_drop, Array.length_toList, ByteArray.size_data]
  simp [bytes, splice, rest]

theorem bytes_move {data : ByteArray} {source target length : Nat}
    (source_fits : source + length ≤ data.size) (target_fits : target + length ≤ data.size) :
    bytes (move data source target length)
      =
    splice (bytes data) target (((bytes data).drop source).take length) := by
  rw [move, bytes_overwrite, bytes_extract]
  rw [ByteArray.size_extract]
  omega

end Storage
end Overlay
