import Overlay.Proofs.Layer.Proper

/-!
This module contains what becomes of the order of a stack when one layer is put somewhere in it. The height
counts the other layers alone, so that it does not matter where the layer was before.
-/

namespace Overlay
namespace LayerStack

variable {s s' : LayerStack} {id : LayerId}

theorem mem_order_of_height? {height : Nat} (stands : s.height? id = some height) : id ∈ s.order := by
  rw [height?, List.findIdx?_eq_some_iff_getElem] at stands
  obtain ⟨lt, hit, _⟩ := stands
  rw [← eq_of_beq hit]
  exact List.getElem_mem lt

structure SameBut (id : LayerId) (s s' : LayerStack) : Prop where
  layers : s'.layers = s.layers
  lastId : s'.lastId = s.lastId
  others : s'.order.erase id = s.order.erase id

namespace SameBut

variable (same : SameBut id s s')
include same

theorem hide : s'.hide id = s.hide id := by
  rw [LayerStack.hide, LayerStack.hide, same.layers, same.others, same.lastId]

theorem place (height : Nat) : s'.place id height = s.place id height := by
  rw [LayerStack.place, LayerStack.place, same.layers, same.others, same.lastId]

end SameBut

section

variable (distinct : s.order.Nodup) (id)
include distinct

theorem sameBut_hide : SameBut id s (s.hide id) where
  layers := rfl
  lastId := rfl
  others := List.erase_of_not_mem distinct.not_mem_erase

theorem exists_order_place (height : Nat) :
    ∃ below above, s.order.erase id = below ++ above ∧ id ∉ below
      ∧ below.length = min height (s.order.erase id).length
      ∧ (s.place id height).order = below ++ id :: above := by
  let others := s.order.erase id
  have split : others = others.take height ++ others.drop height := (List.take_append_drop ..).symm
  have apart : id ∉ others.take height := mt List.mem_of_mem_take distinct.not_mem_erase
  have placed := order_place_above (s := s.hide id) split distinct.not_mem_erase
  rw [(sameBut_hide id distinct).place, List.length_take] at placed
  have clipped : (s.place id (min height others.length)).order = (s.place id height).order := by
    rw [LayerStack.place, LayerStack.place, Nat.min_assoc, Nat.min_self]
  rw [clipped] at placed
  exact ⟨_, _, split, apart, List.length_take, placed⟩

theorem sameBut_place (height : Nat) : SameBut id s (s.place id height) where
  layers := rfl
  lastId := rfl
  others := by
    obtain ⟨below, above, others, apart, _, placed⟩ := exists_order_place id distinct height
    rw [placed, others, List.erase_append_right _ apart, List.erase_cons_head]

theorem height?_place (height : Nat) :
    (s.place id height).height? id = some (min height (s.order.erase id).length) := by
  obtain ⟨below, above, _, apart, count, placed⟩ := exists_order_place id distinct height
  rw [← count]
  exact height?_of_order placed apart

theorem place_height? {height : Nat} (stands : s.height? id = some height) : s.place id height = s := by
  obtain ⟨below, above, order, apart⟩ := List.eq_append_cons_of_mem (mem_order_of_height? stands)
  rw [height?_of_order order apart] at stands
  cases stands
  have others : (s.hide id).order = below ++ above := by
    rw [hide, order, List.erase_append_right _ apart, List.erase_cons_head]
  have placed := order_place_above others distinct.not_mem_erase
  rw [(sameBut_hide id distinct).place, ← order] at placed
  rw [place] at placed ⊢
  dsimp only at placed
  rw [placed]

end

end LayerStack
end Overlay
