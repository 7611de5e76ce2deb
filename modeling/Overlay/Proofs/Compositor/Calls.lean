import Overlay.Proofs.Compositor.Layers

/-!
This module contains the calls of a compositor as data, so that a run is a list of them. Whatever the run,
the layers that there are in the end are those that were made and not removed since, each has a number
that no other layer ever had, and only such layers are visible.
-/

namespace Overlay

namespace Layer

inductive Edit where
  | moveTo (position : Point)
  | moveBy (delta : Point)
  | setWindow (window : WindowId)
  | setDraggable (draggable : Bool)

def edit (l : Layer) : Edit → Layer
  | .moveTo position => l.moveTo position
  | .moveBy delta => l.moveBy delta
  | .setWindow window => l.setWindow window
  | .setDraggable draggable => l.setDraggable draggable

theorem id_edit (e : Edit) (l : Layer) : (l.edit e).id = l.id := by
  cases e <;> rfl

end Layer

namespace Compositor

inductive Call where
  | setOutput (output : Surface)
  | newLayer
  | removeLayer (id : LayerId)
  | editLayer (id : LayerId) (e : Layer.Edit)
  | place (id : LayerId) (height : Coord)
  | hide (id : LayerId)
  | raise (id : LayerId)
  | moveTo (id : LayerId) (position : Point)
  | moveBy (id : LayerId) (delta : Point)
  | drawArea (area : Rect)
  | drawLayer (id : LayerId)
  | draw
  | addWindow (w : Window)
  | editWindow (id : WindowId) (e : Window.Edit)
  | paintOutput (stroke : Stroke)

def paintOutput (c : Compositor) (stroke : Stroke) : Compositor :=
  match c.target with
  | none => c
  | some t =>
    let (output, windows) := t.output.paint c.windows fun s => stroke.apply s
    { c with windows, target := some { t with output } }

def perform (c : Compositor) : Call → Compositor
  | .setOutput output => (c.setOutput output).1
  | .newLayer => c.newLayer.1
  | .removeLayer id => c.removeLayer id
  | .editLayer id e => c.modifyLayer id (·.edit e)
  | .place id height => c.place id height
  | .hide id => c.hide id
  | .raise id => c.raise id
  | .moveTo id position => c.moveTo id position
  | .moveBy id delta => c.moveBy id delta
  | .drawArea area => c.drawArea area
  | .drawLayer id => c.drawLayer id
  | .draw => c.draw
  | .addWindow w => (c.addWindow w).1
  | .editWindow id e => c.modifyWindow id (·.edit e)
  | .paintOutput stroke => c.paintOutput stroke

/-- What a call asks of which layer, if it is one that is refused for a layer that does not exist. -/
def Call.asks? : Call → Option (Log.LayerRequest × LayerId)
  | .removeLayer id => some (.remove, id)
  | .place id _ => some (.place, id)
  | .hide id => some (.hide, id)
  | .raise id => some (.raise, id)
  | .moveTo id _ => some (.move, id)
  | .moveBy id _ => some (.move, id)
  | .drawLayer id => some (.draw, id)
  | _ => none

variable {c : Compositor} {call : Call}

theorem perform_of_unknown {id : LayerId} (unknown : c.layer? id = none) {request : Log.LayerRequest}
    (asked : call.asks? = some (request, id)) :
    c.perform call = c.refuse request id := by
  cases call with
  | removeLayer _ =>
    cases asked
    rw [perform, removeLayer, unknown]
  | place _ height =>
    cases asked
    rw [perform, place, unknown]
  | hide _ =>
    cases asked
    rw [perform, hide, unknown]
  | raise _ =>
    cases asked
    rw [perform, raise, unknown]
  | moveTo _ position =>
    cases asked
    rw [perform, moveTo_of_unknown unknown]
  | moveBy _ delta =>
    cases asked
    rw [perform, moveBy, unknown]
  | drawLayer _ =>
    cases asked
    rw [perform, drawLayer, unknown]
  | _ => cases asked

theorem stack_paintOutput (c : Compositor) (stroke : Stroke) : (c.paintOutput stroke).stack = c.stack := by
  unfold paintOutput
  split <;> rfl

theorem rearranged_perform (unmade : call ≠ .newLayer) (unremoved : ∀ id, call ≠ .removeLayer id) :
    Rearranged c.stack (c.perform call).stack := by
  cases call with
  | setOutput output =>
    rw [perform, stack_setOutput]
    exact .same
  | newLayer => exact absurd rfl unmade
  | removeLayer id => exact absurd rfl (unremoved id)
  | editLayer id e => exact .modify id (Layer.id_edit e)
  | place id height => exact rearranged_place c id height
  | hide id => exact rearranged_hide c id
  | raise id => exact rearranged_raise c id
  | moveTo id position => exact rearranged_moveTo c id position
  | moveBy id delta => exact rearranged_moveBy c id delta
  | drawArea area => exact (sameLayers_drawArea c area).rearranged
  | drawLayer id => exact (sameLayers_drawLayer c id).rearranged
  | draw => exact (sameLayers_drawArea c _).rearranged
  | addWindow w => exact .same
  | editWindow id e => exact .same
  | paintOutput stroke =>
    rw [perform, stack_paintOutput]
    exact .same

theorem proper_perform (proper : c.stack.Proper) (call : Call) : (c.perform call).stack.Proper := by
  cases call with
  | newLayer => exact proper.add
  | removeLayer id => exact proper_removeLayer proper id
  | _ =>
    refine (rearranged_perform ?_ ?_).proper proper
    . nofun
    . nofun

theorem mem_ids_perform {id : LayerId} (known : id ∈ c.stack.ids) (kept : call ≠ .removeLayer id) :
    id ∈ (c.perform call).stack.ids := by
  cases call with
  | newLayer =>
    show id ∈ c.stack.add.ids
    rw [LayerStack.ids_add]
    exact List.mem_append_left _ known
  | removeLayer id' =>
    rw [perform, ids_removeLayer, List.mem_filter, bne_iff_ne]
    refine ⟨known, ?_⟩
    rintro rfl
    exact kept rfl
  | _ =>
    rw [Rearranged.ids (rearranged_perform ?_ ?_)]
    . exact known
    . nofun
    . nofun

structure History where
  compositor : Compositor
  made : List LayerId
  removed : List LayerId

namespace History

def begin (c : Compositor) : History := ⟨c, [], []⟩

def perform (h : History) : Call → History
  | .newLayer =>
    let (compositor, id) := h.compositor.newLayer
    { h with compositor, made := h.made ++ [id] }
  | .removeLayer id =>
    { h with
      compositor := h.compositor.removeLayer id
      removed := if id ∈ h.made then id :: h.removed else h.removed }
  | call => { h with compositor := h.compositor.perform call }

def performAll (h : History) (calls : List Call) : History := calls.foldl perform h

theorem mem_removed {h : History} {id id' : LayerId} :
    id' ∈ (h.perform (.removeLayer id)).removed ↔ (id' = id ∧ id ∈ h.made) ∨ id' ∈ h.removed := by
  show id' ∈ (if id ∈ h.made then id :: h.removed else h.removed) ↔ _
  split
  . next made => simp [made]
  . next unmade => simp [unmade]

structure Consistent (h : History) : Prop where
  proper : h.compositor.stack.Proper
  ascending : h.made.Pairwise (· < ·)
  bounded : ∀ id ∈ h.made, id ≤ h.compositor.stack.lastId
  count : h.compositor.stack.lastId = h.made.length
  made_of_removed : ∀ id ∈ h.removed, id ∈ h.made
  present : ∀ id, id ∈ h.compositor.stack.ids ↔ id ∈ h.made ∧ id ∉ h.removed

namespace Consistent

variable {h : History} (consistent : h.Consistent)
include consistent

theorem rearrange {c : Compositor} (change : Rearranged h.compositor.stack c.stack) :
    ({ h with compositor := c } : History).Consistent where
  proper := change.proper consistent.proper
  ascending := consistent.ascending
  bounded := by
    rw [change.lastId]
    exact consistent.bounded
  count := by
    rw [change.lastId]
    exact consistent.count
  made_of_removed := consistent.made_of_removed
  present := by
    rw [change.ids]
    exact consistent.present

theorem newLayer : (h.perform .newLayer).Consistent where
  proper := consistent.proper.add
  ascending := by
    show (h.made ++ [h.compositor.stack.lastId + 1]).Pairwise (· < ·)
    rw [List.pairwise_append]
    refine ⟨consistent.ascending, List.pairwise_singleton .., ?_⟩
    intro id old _ new
    rw [List.mem_singleton] at new
    subst new
    exact Nat.lt_succ_of_le (consistent.bounded id old)
  bounded := by
    intro id mem
    show id ≤ h.compositor.stack.lastId + 1
    have mem : id ∈ h.made ++ [h.compositor.stack.lastId + 1] := mem
    rw [List.mem_append, List.mem_singleton] at mem
    cases mem with
    | inl old => exact Nat.le_succ_of_le (consistent.bounded id old)
    | inr new => exact Nat.le_of_eq new
  count := by
    show h.compositor.stack.lastId + 1 = (h.made ++ [h.compositor.stack.lastId + 1]).length
    rw [List.length_append, List.length_singleton, consistent.count]
  made_of_removed := by
    intro id removed
    exact List.mem_append_left _ (consistent.made_of_removed id removed)
  present := by
    intro id
    show id ∈ h.compositor.stack.add.ids
      ↔ id ∈ h.made ++ [h.compositor.stack.lastId + 1] ∧ id ∉ h.removed
    rw [LayerStack.ids_add, List.mem_append, List.mem_append, List.mem_singleton, consistent.present]
    constructor
    . rintro (⟨old, kept⟩ | rfl)
      . exact ⟨.inl old, kept⟩
      -- The next number was never given out, so that it was not taken back either.
      . refine ⟨.inr rfl, ?_⟩
        intro removed
        exact Nat.not_succ_le_self _ (consistent.bounded _ (consistent.made_of_removed _ removed))
    . rintro ⟨old | new, kept⟩
      . exact .inl ⟨old, kept⟩
      . exact .inr new

theorem removeLayer (id : LayerId) : (h.perform (.removeLayer id)).Consistent where
  proper := proper_removeLayer consistent.proper id
  ascending := consistent.ascending
  bounded := by
    show ∀ id' ∈ h.made, id' ≤ (h.compositor.removeLayer id).stack.lastId
    rw [lastId_removeLayer]
    exact consistent.bounded
  count := (lastId_removeLayer ..).trans consistent.count
  made_of_removed := by
    intro id' removed
    rw [mem_removed] at removed
    rcases removed with ⟨rfl, made⟩ | before
    . exact made
    . exact consistent.made_of_removed id' before
  present := by
    intro id'
    show id' ∈ (h.compositor.removeLayer id).stack.ids
      ↔ id' ∈ h.made ∧ id' ∉ (h.perform (.removeLayer id)).removed
    rw [ids_removeLayer, List.mem_filter, bne_iff_ne, consistent.present, mem_removed]
    constructor
    . rintro ⟨⟨made, kept⟩, other⟩
      refine ⟨made, ?_⟩
      rintro (⟨same, _⟩ | removed)
      . exact other same
      . exact kept removed
    . rintro ⟨made, kept⟩
      refine ⟨⟨made, fun removed => kept (.inr removed)⟩, ?_⟩
      rintro rfl
      exact kept (.inl ⟨rfl, made⟩)

theorem perform (call : Call) : (h.perform call).Consistent := by
  cases call with
  | newLayer => exact consistent.newLayer
  | removeLayer id => exact consistent.removeLayer id
  | _ =>
    apply consistent.rearrange
    apply rearranged_perform
    . nofun
    . nofun

theorem performAll (calls : List Call) : (h.performAll calls).Consistent := by
  induction calls generalizing h with
  | nil => exact consistent
  | cons call calls ih => exact ih (consistent.perform call)

end Consistent

theorem consistent_begin (windows : Windows) (log : Log.Logger) :
    (begin (create windows log)).Consistent where
  proper := .empty
  ascending := .nil
  bounded := nofun
  count := rfl
  made_of_removed := nofun
  present _ := ⟨nofun, nofun⟩

end History

/-- After every run of calls, no layer is visible twice and only layers that exist are visible; each layer
is stored under its own number, which is one of those given out; those that exist are those that were made
and not removed since; and the numbers ascend, so that the layer made next, which is hidden, gets one that
no layer had before. -/
theorem layers_of_run (windows : Windows) (log : Log.Logger) (calls : List Call) :
    let h := (History.begin (create windows log)).performAll calls
    let c := h.compositor
    (c.stack.order.Nodup ∧ ∀ id ∈ c.stack.order, (c.layer? id).isSome = true)
      ∧ (∀ id l, c.layer? id = some l ↔ l ∈ c.stack.layers ∧ l.id = id)
      ∧ (∀ l ∈ c.stack.layers, 1 ≤ l.id ∧ l.id ≤ c.stack.lastId)
      ∧ (∀ id, (c.layer? id).isSome = true ↔ id ∈ h.made ∧ id ∉ h.removed)
      ∧ h.made.Pairwise (· < ·)
      ∧ c.stack.lastId = h.made.length
      ∧ (∀ id ∈ h.made, id < c.newLayer.2)
      ∧ c.newLayer.1.layer? c.newLayer.2 = some (.blank c.newLayer.2)
      ∧ c.newLayer.1.height? c.newLayer.2 = none := by
  dsimp only
  have consistent := (History.consistent_begin windows log).performAll calls
  generalize (History.begin (create windows log)).performAll calls = h at *
  have proper := consistent.proper
  refine ⟨⟨proper.order_distinct, ?_⟩, ?_, ?_, ?_, consistent.ascending, consistent.count, ?_, ?_, ?_⟩
  . intro id visible
    rw [layer?, LayerStack.isSome_find?]
    exact proper.known id visible
  . intro id l
    exact proper.find?_eq_some_iff
  . intro l mem
    exact proper.numbered l.id (List.mem_map_of_mem mem)
  . intro id
    rw [layer?, LayerStack.isSome_find?]
    exact consistent.present id
  . intro id made
    exact Nat.lt_succ_of_le (consistent.bounded id made)
  . show h.compositor.stack.add.find? (h.compositor.stack.lastId + 1) = _
    rw [LayerStack.find?_add, proper.find?_fresh, if_pos rfl]
    rfl
  . show h.compositor.stack.order.findIdx? _ = none
    rw [List.findIdx?_eq_none_iff]
    rintro id visible
    rw [beq_eq_false_iff_ne]
    rintro rfl
    exact proper.fresh (proper.known _ visible)

end Compositor
end Overlay
