/-!
This module contains the byte storage that surfaces are kept in: zeroed runs, writing single bytes,
and copying whole runs. No operation but the first changes a size.
-/

namespace Overlay
namespace Storage

def zeros (n : Nat) : ByteArray :=
  go n (.emptyWithCapacity n)
where
  go : Nat → ByteArray → ByteArray
    | 0, acc => acc
    | n + 1, acc => go n (acc.push 0)

def write (data : ByteArray) (offset : Nat) : List UInt8 → ByteArray
  | [] => data
  | byte :: bytes => write (data.set! offset byte) (offset + 1) bytes

/-- Replaces the bytes from `offset` on by `run`, or nothing if `run` does not fit there. -/
def overwrite (data : ByteArray) (offset : Nat) (run : ByteArray) : ByteArray :=
  if offset + run.size ≤ data.size then run.copySlice 0 data offset run.size else data

/-- Moves a run of bytes within one storage. The run is read before any of it is written. -/
def move (data : ByteArray) (source target length : Nat) : ByteArray :=
  overwrite data target (data.extract source (source + length))

theorem size_zeros.go (n : Nat) (acc : ByteArray) : (zeros.go n acc).size = acc.size + n := by
  induction n generalizing acc with
  | zero => rfl
  | succ n ih =>
    simp only [zeros.go, ih, ByteArray.size_push]
    omega

@[simp]
theorem size_zeros (n : Nat) : (zeros n).size = n := by
  rw [zeros, size_zeros.go]
  exact Nat.zero_add n

@[simp]
theorem size_write (data : ByteArray) (offset : Nat) (bytes : List UInt8) :
    (write data offset bytes).size = data.size := by
  induction bytes generalizing data offset with
  | nil => rfl
  | cons byte bytes ih => rw [write, ih, ByteArray.size_set!]

@[simp]
theorem size_overwrite (data : ByteArray) (offset : Nat) (run : ByteArray) :
    (overwrite data offset run).size = data.size := by
  unfold overwrite
  split
  . rw [ByteArray.copySlice_eq_append]
    simp only [ByteArray.size_append, ByteArray.size_extract, ByteArray.size_data]
    omega
  . rfl

@[simp]
theorem size_move (data : ByteArray) (source target length : Nat) :
    (move data source target length).size = data.size := by
  simp [move]

end Storage
end Overlay
