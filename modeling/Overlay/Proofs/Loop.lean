import Overlay.Loop

/-!
This module contains the laws of counted loops: when two loops give the same result, and when the
rounds that do nothing can be left out.
-/

namespace Overlay
namespace Loop

variable {α β : Type}

theorem progress {motive : Nat → α → Prop} (n : Nat) (f : (i : Nat) → i < n → α → α) (s : α)
    (start : motive 0 s) (round : ∀ i h s, motive i s → motive (i + 1) (f i h s)) :
    motive n (n.fold f s) := by
  induction n with
  | zero => simpa using start
  | succ n ih =>
    rw [Nat.fold_succ]
    apply round
    apply ih
    intro i h s
    apply round

theorem congr {I : α → Prop} (n : Nat) (f g : (i : Nat) → i < n → α → α) (s : α) (start : I s)
    (round : ∀ i h s, I s → I (f i h s)) (same : ∀ i h s, I s → f i h s = g i h s) :
    n.fold f s = n.fold g s := by
  induction n with
  | zero => simp
  | succ n ih =>
    have before : n.fold (fun i h => f i (by omega)) s = n.fold (fun i h => g i (by omega)) s := by
      apply ih
      . intro i h s hs
        apply round
        exact hs
      . intro i h s hs
        apply same
        exact hs
    rw [Nat.fold_succ, Nat.fold_succ, ← before]
    apply same
    apply invariant (motive := I)
    . exact start
    . intro i h s hs
      apply round
      exact hs

theorem relate {R : α → β → Prop} (n : Nat) (f : (i : Nat) → i < n → α → α)
    (g : (i : Nat) → i < n → β → β) (s : α) (t : β) (start : R s t)
    (round : ∀ i h s t, R s t → R (f i h s) (g i h t)) : R (n.fold f s) (n.fold g t) := by
  induction n with
  | zero => simpa using start
  | succ n ih =>
    rw [Nat.fold_succ, Nat.fold_succ]
    apply round
    apply ih
    intro i h s t hst
    apply round
    exact hst

theorem map (k : α → β) (n : Nat) (f : (i : Nat) → i < n → α → α) (g : (i : Nat) → i < n → β → β)
    (s : α) (round : ∀ i h s, k (f i h s) = g i h (k s)) : k (n.fold f s) = n.fold g (k s) := by
  apply relate (R := fun s t => k s = t)
  . rfl
  . intro i h s t same
    rw [round, same]

theorem idle (n : Nat) (f : (i : Nat) → i < n → α → α) (s : α) (same : ∀ i h s, f i h s = s) :
    n.fold f s = s := by
  induction n with
  | zero => simp
  | succ n ih =>
    rw [Nat.fold_succ, same]
    apply ih
    intro i h s
    apply same

theorem trim (n first count : Nat) (f : Nat → α → α) (s : α) (fits : first + count ≤ n)
    (same : ∀ i s, i < n → ¬(first ≤ i ∧ i < first + count) → f i s = s) :
    n.fold (fun i _ => f i) s = count.fold (fun i _ => f (first + i)) s := by
  obtain ⟨rest, rfl⟩ := Nat.exists_eq_add_of_le fits
  rw [Nat.fold_add, Nat.fold_add]
  rw [idle rest, idle first]
  . intro i h s
    apply same <;> omega
  . intro i h s
    apply same <;> omega

end Loop
end Overlay
