import Overlay.Proofs.Compositor.Layers

/-!
This module contains the meaning of the layer at a point: it is the topmost of the visible layers whose
windows contain the point.
-/

namespace Overlay

namespace Compositor

def Holds (c : Compositor) (id : LayerId) (p : Point) : Prop :=
  ∃ l w, c.layer? id = some l ∧ l.window? c.windows = some w
    ∧ (Rect.mk l.position w.size).contains p = true

structure TopmostAt (c : Compositor) (p : Point) (except id : LayerId) : Prop where
  apart : id ≠ except
  holds : c.Holds id p
  uncovered : ∃ below above, c.stack.order = below ++ id :: above
    ∧ ∀ other ∈ above, other ≠ except → ¬c.Holds other p

variable {c c' : Compositor} {id moved : LayerId} {l : Layer} {p : Point}

theorem holds_iff :
    c.Holds id p ↔ (c.layer? id).any (fun l => (l.bounds? c.windows).any (·.contains p)) = true := by
  rw [Option.any_eq_true]
  constructor
  . rintro ⟨l, w, found, window, covers⟩
    refine ⟨l, found, ?_⟩
    rw [Layer.bounds?_of_window? window, Option.any_some]
    exact covers
  . rintro ⟨l, found, covers⟩
    rw [Option.any_eq_true] at covers
    obtain ⟨r, bounds, covers⟩ := covers
    obtain ⟨w, window, rfl⟩ := Option.map_eq_some_iff.mp bounds
    exact ⟨l, w, found, window, covers⟩

theorem holds_iff_bounds? {area : Rect} (bounds : (c.layer? id).bind (·.bounds? c.windows) = some area) :
    c.Holds id p ↔ area.contains p = true := by
  obtain ⟨l, found, bounds⟩ := Option.bind_eq_some_iff.mp bounds
  rw [holds_iff, found, Option.any_some, bounds, Option.any_some]

theorem holds_congr (layers : c'.layer? id = c.layer? id)
    (bounds : ∀ l : Layer, l.bounds? c'.windows = l.bounds? c.windows) :
    c'.Holds id p ↔ c.Holds id p := by
  rw [holds_iff, holds_iff, layers]
  simp only [bounds]

theorem layerAt?_eq_some_iff {except : LayerId} :
    c.layerAt? p except = some l ↔ c.layer? l.id = some l ∧ c.TopmostAt p except l.id := by
  rw [layerAt?, LayerStack.topmostAt?, List.find?_filterMap, List.find?_filter,
    Option.bind_eq_some_iff]
  constructor
  . rintro ⟨id, first, found⟩
    have same := LayerStack.id_of_find? found
    subst same
    rw [List.find?_eq_some_iff_append] at first
    obtain ⟨hit, above, below, order, missed⟩ := first
    rw [decide_eq_true_eq, bne_iff_ne] at hit
    refine ⟨found, hit.1, holds_iff.mpr hit.2, below.reverse, above.reverse, ?_, ?_⟩
    . rw [← List.reverse_reverse c.stack.order, order]
      simp
    . intro other mem apart holds
      have miss := missed other (List.mem_reverse.mp mem)
      rw [Bool.not_eq_true', decide_eq_false_iff_not, bne_iff_ne] at miss
      exact miss ⟨apart, holds_iff.mp holds⟩
  . rintro ⟨found, apart, holds, below, above, order, missed⟩
    refine ⟨l.id, ?_, found⟩
    rw [List.find?_eq_some_iff_append]
    refine ⟨?_, above.reverse, below.reverse, ?_, ?_⟩
    . rw [decide_eq_true_eq, bne_iff_ne]
      exact ⟨apart, holds_iff.mp holds⟩
    . rw [order]
      simp
    . intro other mem
      rw [Bool.not_eq_true', decide_eq_false_iff_not, bne_iff_ne]
      rintro ⟨other_apart, other_holds⟩
      exact missed other (List.mem_reverse.mp mem) other_apart (holds_iff.mpr other_holds)

theorem layerAt?_eq_none_iff {except : LayerId} :
    c.layerAt? p except = none ↔ ∀ id ∈ c.stack.order, id ≠ except → ¬c.Holds id p := by
  rw [layerAt?, LayerStack.topmostAt?, List.find?_eq_none]
  constructor
  . rintro missed id mem apart ⟨l, w, found, window, covers⟩
    apply missed l
    . rw [List.mem_filterMap]
      refine ⟨id, ?_, found⟩
      rw [List.mem_filter, List.mem_reverse, bne_iff_ne]
      exact ⟨mem, apart⟩
    . rw [Layer.bounds?_of_window? window, Option.any_some]
      exact covers
  . intro free l mem covers
    obtain ⟨id, mem, found⟩ := List.mem_filterMap.mp mem
    rw [List.mem_filter, List.mem_reverse, bne_iff_ne] at mem
    apply free id mem.1 mem.2
    rw [holds_iff, layer?, found, Option.any_some]
    exact covers

theorem TopmostAt.unique {except id' : LayerId} (topmost : c.TopmostAt p except id)
    (topmost' : c.TopmostAt p except id') : id = id' := by
  obtain ⟨l, _, found, _⟩ := topmost.holds
  obtain ⟨l', _, found', _⟩ := topmost'.holds
  have same := LayerStack.id_of_find? found
  have same' := LayerStack.id_of_find? found'
  subst same same'
  have under := layerAt?_eq_some_iff.mpr ⟨found, topmost⟩
  rw [layerAt?_eq_some_iff.mpr ⟨found', topmost'⟩] at under
  cases under
  rfl

theorem holds_of_layerAt? {except : LayerId} (h : c.layerAt? p except = some l) :
    c.layer? l.id = some l ∧ l.id ≠ except ∧ c.Holds l.id p := by
  obtain ⟨found, topmost⟩ := layerAt?_eq_some_iff.mp h
  exact ⟨found, topmost.apart, topmost.holds⟩

theorem holds_moveTo_other (other : id ≠ moved) (position : Point) :
    (c.moveTo moved position).Holds id p ↔ c.Holds id p := by
  apply holds_congr
  . rw [layer?_moveTo, if_neg other]
  . exact bounds?_moveTo c moved position

theorem topmostAt_moveTo (position : Point) :
    (c.moveTo moved position).TopmostAt p moved id ↔ c.TopmostAt p moved id := by
  have same := fun (other : LayerId) (apart : other ≠ moved) => holds_moveTo_other (c := c) (p := p) apart position
  constructor
  . rintro ⟨apart, holds, below, above, order, missed⟩
    rw [order_moveTo] at order
    refine ⟨apart, (same id apart).mp holds, below, above, order, ?_⟩
    intro other mem other_apart other_holds
    exact missed other mem other_apart ((same other other_apart).mpr other_holds)
  . rintro ⟨apart, holds, below, above, order, missed⟩
    rw [← order_moveTo c moved position] at order
    refine ⟨apart, (same id apart).mpr holds, below, above, order, ?_⟩
    intro other mem other_apart other_holds
    exact missed other mem other_apart ((same other other_apart).mp other_holds)

theorem TopmostAt.visible {except : LayerId} (topmost : c.TopmostAt p except id) :
    id ∈ c.stack.order := by
  obtain ⟨below, above, order, _⟩ := topmost.uncovered
  rw [order]
  exact List.mem_append_right _ List.mem_cons_self

end Compositor
end Overlay
