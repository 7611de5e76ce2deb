import Overlay.Proofs.Compositor.Calls
import Overlay.Proofs.Layer.Place

/-!
This module contains what becomes of a stack when layers are put at heights, one call after the other. Only
the last height that a layer is put at matters, and the one that it had before restores the stack.
-/

namespace Overlay
namespace Compositor

open LayerStack (SameBut)

variable {c : Compositor} {id : LayerId} {l : Layer} {s : LayerStack}

def performAll (c : Compositor) (calls : List Call) : Compositor := calls.foldl perform c

theorem performAll_keeps {P : Compositor → Prop} (keeps : ∀ c call, P c → P (perform c call)) (hc : P c)
    (calls : List Call) : P (c.performAll calls) := by
  induction calls generalizing c with
  | nil => exact hc
  | cons call calls ih => exact ih (keeps c call hc)

theorem proper_performAll (proper : c.stack.Proper) (calls : List Call) :
    (c.performAll calls).stack.Proper :=
  performAll_keeps (P := (·.stack.Proper)) (fun _ call proper => proper_perform proper call) proper calls

theorem place_congr (found : c.layer? id = some l) (same : SameBut id c.stack s) (height : Coord) :
    ({ c with stack := s } : Compositor).place id height = c.place id height := by
  have found' : ({ c with stack := s } : Compositor).layer? id = some l := by
    rw [← found, layer?, layer?, LayerStack.find?, same.layers]
    rfl
  by_cases h : 0 ≤ height.val
  . rw [place_of_layer? found h, place_of_layer? found' h, ← same.place]
  . rw [place_of_negative found (by omega), place_of_negative found' (by omega), ← same.hide]

theorem hide_of_layer? (found : c.layer? id = some l) :
    c.hide id = { c with stack := c.stack.hide id } := by
  rw [hide, found]

theorem exists_place (found : c.layer? id = some l) (distinct : c.stack.order.Nodup) (height : Coord) :
    ∃ s, SameBut id c.stack s ∧ c.place id height = { c with stack := s } := by
  by_cases h : 0 ≤ height.val
  . exact ⟨_, LayerStack.sameBut_place id distinct _, place_of_layer? found h⟩
  . exact ⟨_, LayerStack.sameBut_hide id distinct, place_of_negative found (by omega)⟩

theorem exists_raise (found : c.layer? id = some l) (distinct : c.stack.order.Nodup) :
    ∃ s, SameBut id c.stack s ∧ c.raise id = { c with stack := s } := by
  rw [raise, found]
  dsimp only
  split
  . exact exists_place found distinct .greatest
  . exact ⟨c.stack, ⟨rfl, rfl, rfl⟩, rfl⟩

theorem place_restores {k : Nat} {height : Coord} (found : c.layer? id = some l)
    (distinct : c.stack.order.Nodup) (stands : c.height? id = some k) (value : height.val = k)
    (same : SameBut id c.stack s) : ({ c with stack := s } : Compositor).place id height = c := by
  rw [place_congr found same, place_of_layer? found (by omega), Coord.toNat, value, Int.toNat_natCast,
    LayerStack.place_height? id distinct stands]

/-- After every run of calls, a layer that exists is put at a height among the others, or on top of them, and
the others keep their order; a negative height takes it out of the stack and does nothing else; and only the
last of two heights matters. If a visible layer is hidden, raised or put somewhere else, then the height that
it had brings the stack back as it was. -/
theorem place_of_run (windows : Windows) (log : Log.Logger) (calls : List Call) (id : LayerId) :
    let c := (create windows log).performAll calls
    let others := c.stack.order.filter (· != id)
    ((c.layer? id).isSome = true →
      (∀ height : Coord, 0 ≤ height.val →
        let c' := c.place id height
        c' = { c with stack := { c.stack with order := c'.stack.order } }
          ∧ c'.stack.order.count id = 1
          ∧ c'.height? id = some (min height.val.toNat others.length)
          ∧ c'.stack.order.filter (· != id) = others)
      ∧ (∀ height : Coord, height.val < 0 →
        c.place id height = { c with stack := { c.stack with order := others } })
      ∧ ∀ first last, (c.place id first).place id last = c.place id last)
    ∧ ∀ (k : Nat) (height : Coord), c.height? id = some k → height.val = k →
      (c.hide id).place id height = c
        ∧ (c.raise id).place id height = c
        ∧ ∀ other, (c.place id other).place id height = c := by
  intro c others
  have proper : c.stack.Proper := proper_performAll .empty calls
  clear_value c
  have distinct := proper.order_distinct
  have others_eq : c.stack.order.erase id = others := distinct.erase_eq_filter id
  constructor
  . intro known
    obtain ⟨l, found⟩ := Option.isSome_iff_exists.mp known
    refine ⟨?_, ?_, ?_⟩
    . intro height h
      have distinct' := LayerStack.nodup_place distinct id height.toNat
      have same := LayerStack.sameBut_place id distinct height.toNat
      intro c'
      have placed : c' = { c with stack := c.stack.place id height.toNat } := place_of_layer? found h
      rw [placed]
      refine ⟨rfl, ?_, ?_, ?_⟩
      . rw [(LayerStack.perm_place ..).count_eq, List.count_cons_self,
          List.count_eq_zero_of_not_mem distinct.not_mem_erase]
      . rw [height?, LayerStack.height?_place id distinct, others_eq]
        rfl
      . rw [← distinct'.erase_eq_filter, same.others, others_eq]
    . intro height h
      rw [place_of_negative found h, LayerStack.hide, others_eq]
    . intro first last
      obtain ⟨s, same, placed⟩ := exists_place found distinct first
      rw [placed, place_congr found same]
  . intro k height stands value
    have known := proper.known id (LayerStack.mem_order_of_height? stands)
    obtain ⟨l, found⟩ := LayerStack.exists_find? known
    refine ⟨?_, ?_, ?_⟩
    . rw [hide_of_layer? found]
      exact place_restores found distinct stands value (LayerStack.sameBut_hide id distinct)
    . obtain ⟨s, same, raised⟩ := exists_raise found distinct
      rw [raised]
      exact place_restores found distinct stands value same
    . intro other
      obtain ⟨s, same, placed⟩ := exists_place found distinct other
      rw [placed]
      exact place_restores found distinct stands value same

theorem place_of_run_middle :
    let c := (create #[] .fresh).performAll
      [.newLayer, .newLayer, .newLayer, .place 1 0, .place 2 7, .place 3 7]
    c.stack.order = [1, 2, 3]
      ∧ (c.place 2 7).height? 2 = some 2
      ∧ (c.place 2 (-1)).stack.order = [1, 3]
      ∧ (c.hide 2).place 2 1 = c := by
  intro c
  obtain ⟨known, visible⟩ := place_of_run #[] .fresh
    [.newLayer, .newLayer, .newLayer, .place 1 0, .place 2 7, .place 3 7] 2
  obtain ⟨up, out, _⟩ := known (by decide)
  refine ⟨by decide, (up 7 (by decide)).2.2.1, ?_, (visible 1 1 (by decide) (by decide)).1⟩
  rw [out (-1) (by decide)]
  decide

end Compositor
end Overlay
