/-!
This module contains the coordinates of the pixel plane: the integers of a signed 32-bit word, with
arithmetic that saturates at both ends.
-/

namespace Overlay

/-- An integer that fits a signed 32-bit word. -/
@[ext]
structure Coord where
  val : Int
  least_le : -2147483648 ≤ val
  le_greatest : val ≤ 2147483647
  deriving DecidableEq

namespace Coord

/-- The coordinate nearest to an integer. -/
def clamp (n : Int) : Coord :=
  ⟨max (-2147483648) (min n 2147483647), by omega, by omega⟩

/-- The coordinate that agrees with an integer in the low 32 bits. -/
def wrap (n : Int) : Coord :=
  have lower := Int.le_bmod (x := n) (m := 4294967296) (by decide)
  have upper := Int.bmod_lt (x := n) (m := 4294967296) (by decide)
  ⟨n.bmod 4294967296, by omega, by omega⟩

def ofInt? (n : Int) : Option Coord :=
  if h : -2147483648 ≤ n ∧ n ≤ 2147483647 then some ⟨n, h.1, h.2⟩ else none

instance : OfNat Coord n := ⟨clamp n⟩

instance : Inhabited Coord := ⟨0⟩

def greatest : Coord := clamp 2147483647

instance : Add Coord := ⟨fun a b => clamp (a.val + b.val)⟩

instance : Sub Coord := ⟨fun a b => clamp (a.val - b.val)⟩

instance : Neg Coord := ⟨fun a => clamp (-a.val)⟩

instance : LE Coord := ⟨fun a b => a.val ≤ b.val⟩

instance : LT Coord := ⟨fun a b => a.val < b.val⟩

instance : DecidableLE Coord := fun a b => inferInstanceAs (Decidable (a.val ≤ b.val))

instance : DecidableLT Coord := fun a b => inferInstanceAs (Decidable (a.val < b.val))

instance : Max Coord := ⟨fun a b => if a ≤ b then b else a⟩

instance : Min Coord := ⟨fun a b => if a ≤ b then a else b⟩

/-- The column or row that a coordinate names; a negative one stands for the first. -/
def toNat (c : Coord) : Nat := c.val.toNat

theorem le_def {a b : Coord} : a ≤ b ↔ a.val ≤ b.val := Iff.rfl

theorem lt_def {a b : Coord} : a < b ↔ a.val < b.val := Iff.rfl

@[simp]
theorem val_clamp (n : Int) : (clamp n).val = max (-2147483648) (min n 2147483647) := rfl

@[simp]
theorem val_ofNat (n : Nat) : (no_index (OfNat.ofNat n) : Coord).val = min (n : Int) 2147483647 := by
  show max (-2147483648) (min (n : Int) 2147483647) = _
  omega

@[simp]
theorem val_add (a b : Coord) :
    (a + b).val = max (-2147483648) (min (a.val + b.val) 2147483647) := rfl

@[simp]
theorem val_sub (a b : Coord) :
    (a - b).val = max (-2147483648) (min (a.val - b.val) 2147483647) := rfl

@[simp]
theorem val_neg (a : Coord) : (-a).val = min (-a.val) 2147483647 := by
  have := a.le_greatest
  show max (-2147483648) (min (-a.val) 2147483647) = _
  omega

@[simp]
theorem val_max (a b : Coord) : (max a b).val = max a.val b.val := by
  show (if a ≤ b then b else a).val = _
  split <;> simp only [le_def] at * <;> omega

@[simp]
theorem val_min (a b : Coord) : (min a b).val = min a.val b.val := by
  show (if a ≤ b then a else b).val = _
  split <;> simp only [le_def] at * <;> omega

@[simp]
theorem clamp_val (a : Coord) : clamp a.val = a := by
  ext
  have := a.least_le
  have := a.le_greatest
  simp only [val_clamp]
  omega

end Coord
end Overlay
