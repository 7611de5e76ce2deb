import Overlay.Text.Numeral

/-!
This module contains what numerals stand for: which characters are hexadecimal digits, and that the decimal
numeral of an integer is read as that integer.
-/

namespace Overlay
namespace Text

theorem le_iff_toNat_le {c d : Char} : c ≤ d ↔ c.toNat ≤ d.toNat := Char.le_def.trans UInt32.le_iff_toNat_le

theorem toNat_toLower (c : Char) :
    c.toLower.toNat = if 65 ≤ c.toNat ∧ c.toNat ≤ 90 then c.toNat + 32 else c.toNat := by
  delta Char.toLower
  simp only [ge_iff_le, UInt32.le_iff_toNat_le]
  split
  . next upper =>
    have upper : 65 ≤ c.toNat ∧ c.toNat ≤ 90 := upper
    rw [if_pos upper]
    show (c.toNat + 32) % 4294967296 = c.toNat + 32
    omega
  . next other => exact (if_neg other).symm

theorem toNat_digitChar : ∀ d < 16, d.digitChar.toNat = if d < 10 then 48 + d else 87 + d := by decide

theorem digit?_eq_some_iff_toNat {c : Char} {d : Nat} :
    digit? 16 c = some d
      ↔
    d < 16 ∧ (c.toNat = 48 + d ∧ d < 10 ∨ c.toNat = 87 + d ∧ 10 ≤ d ∨ c.toNat = 55 + d ∧ 10 ≤ d) := by
  simp only [digit?, Option.filter_eq_some_iff, decide_eq_true_eq, le_iff_toNat_le, Char.reduceToNat]
  split
  . simp only [Option.some.injEq]
    omega
  . split
    . simp only [Option.some.injEq]
      omega
    . split
      . simp only [Option.some.injEq]
        omega
      . simp only [reduceCtorEq, false_and, false_iff]
        omega

theorem toLower_eq_digitChar_iff {c : Char} {d : Nat} (small : d < 16) :
    c.toLower = d.digitChar
      ↔
    c.toNat = 48 + d ∧ d < 10 ∨ c.toNat = 87 + d ∧ 10 ≤ d ∨ c.toNat = 55 + d ∧ 10 ≤ d := by
  rw [← Char.toNat_inj, toNat_toLower, toNat_digitChar d small]
  split <;> split <;> omega

theorem digit?_eq_some_iff {c : Char} {d : Nat} :
    digit? 16 c = some d ↔ d < 16 ∧ c.toLower = d.digitChar := by
  rw [digit?_eq_some_iff_toNat]
  exact and_congr_right fun small => (toLower_eq_digitChar_iff small).symm

theorem digit?_digitChar : ∀ d < 10, digit? 10 d.digitChar = some d := by decide

theorem digits?_append (base : Nat) (front : List Char) (c : Char) :
    digits? base (front ++ [c]) =
      (digits? base front).bind fun n => (digit? base c).map (n * base + ·) := by
  simp [digits?, List.foldlM_append]

theorem digits?_toDigits (n : Nat) : digits? 10 (Nat.toDigits 10 n) = some n := by
  induction n using Nat.base_induction 10 (by decide) with
  | single n small =>
    rw [Nat.toDigits_of_lt_base small]
    simp [digits?, digit?_digitChar n small]
  | digit n d small pos ih =>
    rw [← Nat.toDigits_append_toDigits (by decide) pos small, Nat.toDigits_of_lt_base small,
      digits?_append, ih]
    simp [digit?_digitChar d small, Nat.mul_comm]

theorem digits?_of_not_digit {base : Nat} {c : Char} (other : digit? base c = none) (rest : List Char) :
    digits? base (c :: rest) = none := by
  simp [digits?, other]

theorem natural?_of_digits? {base n : Nat} {text : List Char} (plus : digit? base '+' = none)
    (nonempty : text ≠ []) (read : digits? base text = some n) : natural? base text = some n := by
  unfold natural?
  split
  . next rest =>
    rw [digits?_of_not_digit plus] at read
    contradiction
  . simp [nonempty, read]

theorem integer?_of_digits? {n : Nat} {text : List Char} (nonempty : text ≠ [])
    (read : digits? 10 text = some n) : integer? text = some (n : Int) := by
  unfold integer?
  split
  . next rest =>
    rw [digits?_of_not_digit (by decide)] at read
    contradiction
  . rw [natural?_of_digits? (by decide) nonempty read]
    rfl

theorem integer?_repr (n : Int) : integer? n.repr.toList = some n := by
  cases n with
  | ofNat n =>
    have read := integer?_of_digits? Nat.toDigits_ne_nil (digits?_toDigits n)
    simpa [Int.repr] using read
  | negSucc n => simp [Int.repr, integer?, digits?_toDigits, Int.negSucc_eq]

theorem mem_repr {n : Int} {c : Char} (mem : c ∈ n.repr.toList) : c = '-' ∨ c.isDigit = true := by
  have digits {m : Nat} (mem : c ∈ Nat.toDigits 10 m) : c.isDigit = true :=
    Nat.isDigit_of_mem_toDigits (by decide) (by decide) mem
  cases n with
  | ofNat n => exact .inr (digits (by simpa [Int.repr] using mem))
  | negSucc n =>
    simp only [Int.repr, String.toList_append, Nat.toList_repr] at mem
    exact (List.mem_cons.mp mem).imp_right digits

end Text
end Overlay
