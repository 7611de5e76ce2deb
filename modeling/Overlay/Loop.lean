/-!
This module contains the induction principle of counted loops: what holds before a loop and survives
each of its rounds holds after it.
-/

namespace Overlay

theorem Loop.invariant {α : Type} {motive : α → Prop} (n : Nat) (f : (i : Nat) → i < n → α → α)
    (s : α) (start : motive s) (round : ∀ i h s, motive s → motive (f i h s)) :
    motive (n.fold f s) := by
  induction n with
  | zero => exact start
  | succ n ih =>
    rw [Nat.fold_succ]
    exact round _ _ _ (ih _ fun i h s => round i _ s)

end Overlay
