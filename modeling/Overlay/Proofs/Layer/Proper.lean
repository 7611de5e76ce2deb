import Overlay.Proofs.Layer.Stack

/-!
This module contains what holds of a stack of layers whatever is done to it: each layer has a number of
its own that was given out, only layers that exist are visible, and none of them twice.
-/

namespace Overlay
namespace LayerStack

variable {s : LayerStack} {id id' : LayerId}

def ids (s : LayerStack) : List LayerId := s.layers.map Layer.id

theorem isSome_find? : (s.find? id).isSome = true ↔ id ∈ s.ids := by
  rw [find?, List.find?_isSome, ids, List.mem_map]
  simp

theorem exists_find? (known : id ∈ s.ids) : ∃ l, s.find? id = some l := by
  rw [← Option.isSome_iff_exists]
  exact isSome_find?.mpr known

theorem ids_add (s : LayerStack) : s.add.ids = s.ids ++ [s.lastId + 1] := by
  rw [ids, add, List.map_append]
  rfl

theorem ids_erase (s : LayerStack) (id : LayerId) : (s.erase id).ids = s.ids.filter (· != id) := by
  rw [ids, ids, erase, List.filter_map]
  rfl

theorem ids_modify {f : Layer → Layer} (keeps : ∀ l, (f l).id = l.id) (s : LayerStack)
    (id : LayerId) : (s.modify id f).ids = s.ids := by
  rw [ids, ids, modify, List.map_map]
  apply List.map_congr_left
  intro l _
  rw [Function.comp_apply]
  split
  . rw [keeps]
  . rfl

theorem ids_place (s : LayerStack) (id : LayerId) (height : Nat) : (s.place id height).ids = s.ids := rfl

theorem perm_place (s : LayerStack) (id : LayerId) (height : Nat) :
    (s.place id height).order.Perm (id :: s.order.erase id) := by
  rw [place]
  exact List.perm_insertIdx _ _ (Nat.min_le_right ..)

theorem mem_order_place (visible : id' ∈ s.order) (id : LayerId) (height : Nat) :
    id' ∈ (s.place id height).order := by
  rw [(perm_place s id height).mem_iff, List.mem_cons]
  by_cases hit : id' = id
  . exact .inl hit
  . exact .inr ((List.mem_erase_of_ne hit).mpr visible)

theorem nodup_place (distinct : s.order.Nodup) (id : LayerId) (height : Nat) :
    (s.place id height).order.Nodup := by
  rw [(perm_place s id height).nodup_iff, List.nodup_cons]
  exact ⟨distinct.not_mem_erase, distinct.erase id⟩

theorem order_place_congr {s' : LayerStack} (order : s'.order = s.order) (id : LayerId) (height : Nat) :
    (s'.place id height).order = (s.place id height).order := by
  rw [place, place, order]

/-- The greatest height that a layer can be put at. Heights are cast to coordinates, where those beyond this one
wrap around. -/
def maxHeight : Nat := Coord.greatest.toNat

theorem val_wrap_eq_iff {height : Nat} : (Coord.wrap height).val = height ↔ height ≤ maxHeight := by
  constructor
  . intro kept
    have := (Coord.wrap height).le_greatest
    show height ≤ 2147483647
    omega
  . exact Coord.val_wrap_of_le

theorem order_place_top {height : Nat} (tall : (s.order.erase id).length ≤ height) :
    (s.place id height).order = s.order.erase id ++ [id] := by
  rw [place]
  dsimp only
  rw [Nat.min_eq_right tall, List.insertIdx_length_self]

theorem order_place_above {below above : List LayerId} (order : s.order = below ++ above)
    (hidden : id ∉ s.order) : (s.place id below.length).order = below ++ id :: above := by
  have insert : (below ++ above).insertIdx below.length id = below ++ id :: above := by
    clear order
    induction below with
    | nil => rfl
    | cons other below ih =>
      rw [List.cons_append, List.length_cons, List.insertIdx_succ_cons, ih]
      rfl
  rw [place]
  dsimp only
  rw [List.erase_of_not_mem hidden, order, Nat.min_eq_left, insert]
  rw [List.length_append]
  exact Nat.le_add_right ..

theorem height?_of_order {below above : List LayerId} (order : s.order = below ++ id :: above)
    (apart : id ∉ below) : s.height? id = some below.length := by
  have missed : below.findIdx? (· == id) = none := by
    rw [List.findIdx?_eq_none_iff]
    rintro other mem
    rw [beq_eq_false_iff_ne]
    rintro rfl
    exact apart mem
  rw [height?, order, List.findIdx?_append, missed, List.findIdx?_cons, beq_self_eq_true, if_pos rfl,
    Option.map_some, Option.none_or, Nat.zero_add]

structure Proper (s : LayerStack) : Prop where
  distinct : s.ids.Nodup
  numbered : ∀ id ∈ s.ids, 1 ≤ id ∧ id ≤ s.lastId
  order_distinct : s.order.Nodup
  known : ∀ id ∈ s.order, id ∈ s.ids

namespace Proper

theorem empty : Proper .empty where
  distinct := .nil
  numbered := nofun
  order_distinct := .nil
  known := nofun

variable (proper : s.Proper)
include proper

theorem find?_eq_some_iff {l : Layer} : s.find? id = some l ↔ l ∈ s.layers ∧ l.id = id := by
  constructor
  . intro found
    exact ⟨List.mem_of_find?_eq_some found, id_of_find? found⟩
  . rintro ⟨mem, rfl⟩
    have distinct : s.layers.Pairwise fun a b => a.id ≠ b.id := List.pairwise_map.mp proper.distinct
    rw [find?, List.find?_eq_some_iff_append]
    obtain ⟨older, newer, split⟩ := List.append_of_mem mem
    refine ⟨beq_self_eq_true _, older, newer, split, ?_⟩
    intro other before
    rw [split, List.pairwise_append] at distinct
    have apart := distinct.2.2 other before l List.mem_cons_self
    simpa using apart

theorem fresh : s.lastId + 1 ∉ s.ids := by
  intro mem
  exact Nat.not_succ_le_self _ (proper.numbered _ mem).2

theorem find?_fresh : s.find? (s.lastId + 1) = none := by
  rw [← Option.not_isSome_iff_eq_none, isSome_find?]
  exact proper.fresh

theorem hidden_of_unknown (unknown : id ∉ s.ids) : id ∉ s.order := by
  intro visible
  exact unknown (proper.known _ visible)

theorem add : s.add.Proper where
  distinct := by
    rw [ids_add, List.nodup_append]
    refine ⟨proper.distinct, List.pairwise_singleton .., ?_⟩
    rintro id mem _ new rfl
    rw [List.mem_singleton] at new
    subst new
    exact proper.fresh mem
  numbered := by
    intro id mem
    show 1 ≤ id ∧ id ≤ s.lastId + 1
    rw [ids_add, List.mem_append, List.mem_singleton] at mem
    cases mem with
    | inl old =>
      obtain ⟨positive, given⟩ := proper.numbered id old
      exact ⟨positive, Nat.le_succ_of_le given⟩
    | inr new =>
      subst new
      exact ⟨Nat.le_add_left .., Nat.le_refl _⟩
  order_distinct := proper.order_distinct
  known := by
    intro id visible
    rw [ids_add, List.mem_append]
    exact .inl (proper.known id visible)

theorem erase (id : LayerId) : (s.erase id).Proper where
  distinct := by
    rw [ids_erase]
    exact proper.distinct.sublist List.filter_sublist
  numbered := by
    intro id' mem
    rw [ids_erase, List.mem_filter] at mem
    exact proper.numbered id' mem.1
  order_distinct := proper.order_distinct.sublist List.filter_sublist
  known := by
    intro id' visible
    have visible : id' ∈ s.order.filter (· != id) := visible
    rw [List.mem_filter] at visible
    rw [ids_erase, List.mem_filter]
    exact ⟨proper.known id' visible.1, visible.2⟩

theorem modify {f : Layer → Layer} (keeps : ∀ l, (f l).id = l.id) (id : LayerId) :
    (s.modify id f).Proper where
  distinct := by
    rw [ids_modify keeps]
    exact proper.distinct
  numbered := by
    rw [ids_modify keeps]
    exact proper.numbered
  order_distinct := proper.order_distinct
  known := by
    rw [ids_modify keeps]
    exact proper.known

theorem hide (id : LayerId) : (s.hide id).Proper where
  distinct := proper.distinct
  numbered := proper.numbered
  order_distinct := proper.order_distinct.erase id
  known := by
    intro id' visible
    exact proper.known id' (List.mem_of_mem_erase visible)

theorem place (exists_id : id ∈ s.ids) (height : Nat) : (s.place id height).Proper where
  distinct := proper.distinct
  numbered := proper.numbered
  order_distinct := nodup_place proper.order_distinct id height
  known := by
    intro id' visible
    rw [(perm_place s id height).mem_iff, List.mem_cons] at visible
    rw [ids_place]
    cases visible with
    | inl same =>
      subst same
      exact exists_id
    | inr other => exact proper.known id' (List.mem_of_mem_erase other)

end Proper
end LayerStack
end Overlay
