import Overlay.Desktop.Basic
import Overlay.Proofs.Compositor.Calls
import Overlay.Proofs.Pointer.Report

/-!
This module contains the calls of a desktop as data, also with calls of its compositor in between, and
what holds of the cursor whatever these are.
-/

namespace Overlay

namespace Desktop

open Compositor

inductive Call where
  | newWindow (width height : Nat)
  | addWindow (window : WindowId) (position : Point)
  | handlePointer (e : PointerEvent)
  | handleReport (buttons : UInt8) (dx dy : Int8)
  | redraw
  | shareWindow (w : Window)
  | editWindow (id : WindowId) (e : Window.Edit)

def perform (d : Desktop) : Call → Desktop × Option LayerId
  | .newWindow width height =>
    match d.newWindow width height with
    | .error _ => (d, none)
    | .ok (d, _) => (d, none)
  | .addWindow window position =>
    let (d, id) := d.addWindow window position
    (d, some id)
  | .handlePointer e => (d.handlePointer e, none)
  | .handleReport buttons dx dy => (d.handleReport buttons dx dy, none)
  | .redraw => (d.redraw, none)
  | .shareWindow w => ({ d with compositor := (d.compositor.addWindow w).1 }, none)
  | .editWindow id e => ({ d with compositor := d.compositor.modifyWindow id (·.edit e) }, none)

/-- A call of a desktop, or one of its compositor that is made past it. -/
inductive Request where
  | desktop (call : Call)
  | layers (call : Compositor.Call)

def respond (d : Desktop) : Request → Desktop
  | .desktop call => (d.perform call).1
  | .layers call => { d with compositor := d.compositor.perform call }

def respondAll (d : Desktop) (requests : List Request) : Desktop := requests.foldl respond d

variable {d : Desktop} {e : PointerEvent}

structure Still (d d' : Desktop) : Prop where
  stack : d'.compositor.stack = d.compositor.stack
  pointer : d'.pointer = d.pointer
  background : d'.background = d.background

inductive Outcome (d : Desktop) : Desktop × Option LayerId → Prop where
  | added (window : WindowId) (position : Point) :
    Outcome d ((d.addWindow window position).1, some (d.addWindow window position).2)
  | reported (e : PointerEvent) : Outcome d (d.handlePointer e, none)
  | still {d' : Desktop} (still : Still d d') : Outcome d (d', none)

theorem outcome_perform (d : Desktop) (call : Call) : Outcome d (d.perform call) := by
  cases call with
  | newWindow width height =>
    rw [perform, newWindow]
    cases Window.black? width height d.format with
    | error _ => exact .still ⟨rfl, rfl, rfl⟩
    | ok w => exact .still ⟨rfl, rfl, rfl⟩
  | addWindow window position => exact .added window position
  | handlePointer e => exact .reported e
  | handleReport buttons dx dy => exact .reported (.ofRaw buttons dx dy)
  | redraw => exact .still ⟨(sameLayers_drawArea d.compositor _).stack, rfl, rfl⟩
  | shareWindow w => exact .still ⟨rfl, rfl, rfl⟩
  | editWindow id e => exact .still ⟨rfl, rfl, rfl⟩

theorem rearranged_addWindow (d : Desktop) (window : WindowId) (position : Point) :
    Rearranged d.compositor.stack.add (d.addWindow window position).1.compositor.stack := by
  unfold addWindow
  dsimp only
  have keeps : ∀ l : Layer, (((l.setWindow window).moveTo position).setDraggable true).id = l.id :=
    fun _ => rfl
  have shown : Rearranged d.compositor.stack.add (d.compositor.newLayer.1.modifyLayer
      d.compositor.newLayer.2 fun l => ((l.setWindow window).moveTo position).setDraggable true).stack :=
    .modify _ keeps
  exact (shown.trans (rearranged_place ..)).trans (sameLayers_drawLayer ..).rearranged

theorem rearranged_handlePointer (d : Desktop) (e : PointerEvent) :
    Rearranged d.compositor.stack (d.handlePointer e).compositor.stack := by
  have handled := Pointer.rearranged_handle d.pointer d.compositor e
  unfold handlePointer
  dsimp only
  split
  . exact handled
  . exact (handled.trans (rearranged_place ..)).trans (sameLayers_drawLayer ..).rearranged

/-- What holds of a desktop whatever is done to its layers, unless the cursor is removed. -/
structure Intact (d : Desktop) : Prop where
  proper : d.compositor.stack.Proper
  coherent : d.pointer.Coherent
  known : d.cursor ∈ d.compositor.stack.ids

namespace Intact

variable (intact : d.Intact)
include intact

theorem exists_handled (few : (d.compositor.stack.order.erase d.cursor).length ≤ LayerStack.maxHeight)
    (e : PointerEvent) :
    ∃ c, d.pointer.Handled d.compositor e (d.handlePointer e).pointer c
      ∧ (d.handlePointer e).compositor.layer? = c.layer?
      ∧ (d.handlePointer e).compositor.stack.order = c.stack.order.erase d.cursor ++ [d.cursor] := by
  have handled := intact.coherent.handled (c := d.compositor) e
  have change := Pointer.rearranged_handle d.pointer d.compositor e
  have proper := change.proper intact.proper
  have known := intact.known
  rw [← change.ids] at known
  obtain ⟨l, found⟩ := LayerStack.exists_find? known
  have tall := Nat.le_trans (Nat.le_of_eq (handled.perm_order.erase d.cursor).length_eq) few
  refine ⟨_, handled, ?_⟩
  unfold handlePointer
  dsimp only
  generalize d.pointer.handle d.compositor e = s at *
  obtain ⟨pointer, c⟩ := s
  split
  . next last =>
    refine ⟨rfl, ?_⟩
    obtain ⟨below, order⟩ := List.getLast?_eq_some_iff.mp last
    have distinct := proper.order_distinct
    rw [order] at distinct ⊢
    have apart : d.cursor ∉ below := by
      intro mem
      exact (List.nodup_append.mp distinct).2.2 _ mem _ (List.mem_singleton.mpr rfl) rfl
    rw [List.erase_append_right _ apart, List.erase_cons_head, List.append_nil]
  . have placed := place_of_layer? (c := c) found (show 0 ≤ Coord.greatest.val by decide)
    have drawn := sameLayers_drawLayer (c.place d.cursor .greatest) d.cursor
    constructor
    . rw [drawn.layer?_eq, layer?_place]
    . rw [drawn.stack, placed]
      exact LayerStack.order_place_top tall

theorem cursor_on_top (few : d.compositor.stack.order.length ≤ LayerStack.maxHeight) (e : PointerEvent) :
    (d.handlePointer e).compositor.stack.order.getLast? = some d.cursor
      ∧ ∃ l, (d.handlePointer e).compositor.layer? d.cursor = some l
        ∧ l.position = (d.handlePointer e).pointer.position := by
  have short : (d.compositor.stack.order.erase d.cursor).length ≤ LayerStack.maxHeight :=
    Nat.le_trans List.length_erase_le few
  obtain ⟨c, handled, layers, order⟩ := intact.exists_handled short e
  obtain ⟨l, found⟩ := LayerStack.exists_find? intact.known
  constructor
  . rw [order, List.getLast?_concat]
  . refine ⟨l.moveTo (d.handlePointer e).pointer.position, ?_, rfl⟩
    rw [layers]
    exact handled.layer?_cursor.trans (congrArg _ found)

theorem handlePointer (e : PointerEvent) : (d.handlePointer e).Intact := by
  have handled := intact.coherent.handled (c := d.compositor) e
  have change := rearranged_handlePointer d e
  have same : (d.handlePointer e).cursor = d.cursor := handled.cursor
  refine ⟨change.proper intact.proper, handled.keeps_coherent intact.coherent, ?_⟩
  rw [same, change.ids]
  exact intact.known

theorem addWindow (window : WindowId) (position : Point) :
    (d.addWindow window position).1.Intact := by
  have change := rearranged_addWindow d window position
  refine ⟨change.proper intact.proper.add, intact.coherent, ?_⟩
  rw [change.ids, LayerStack.ids_add]
  exact List.mem_append_left _ intact.known

theorem still {d' : Desktop} (still : Still d d') : d'.Intact ∧ d'.cursor = d.cursor := by
  have same : d'.cursor = d.cursor := congrArg Pointer.cursor still.pointer
  refine ⟨⟨?_, ?_, ?_⟩, same⟩
  . rw [still.stack]
    exact intact.proper
  . rw [still.pointer]
    exact intact.coherent
  . rw [still.stack, same]
    exact intact.known

theorem outcome {result : Desktop × Option LayerId} (outcome : Outcome d result) :
    result.1.Intact ∧ result.1.cursor = d.cursor := by
  cases outcome with
  | added window position => exact ⟨intact.addWindow window position, rfl⟩
  | reported e =>
    exact ⟨intact.handlePointer e, (intact.coherent.handled (c := d.compositor) e).cursor⟩
  | still still => exact intact.still still

theorem respond (request : Request) (kept : request ≠ .layers (.removeLayer d.cursor)) :
    (d.respond request).Intact ∧ (d.respond request).cursor = d.cursor := by
  cases request with
  | desktop call => exact intact.outcome (outcome_perform d call)
  | layers call =>
    refine ⟨⟨proper_perform intact.proper call, intact.coherent, ?_⟩, rfl⟩
    apply mem_ids_perform intact.known
    rintro rfl
    exact kept rfl

theorem respondAll (requests : List Request) (kept : .layers (.removeLayer d.cursor) ∉ requests) :
    (d.respondAll requests).Intact ∧ (d.respondAll requests).cursor = d.cursor := by
  induction requests generalizing d with
  | nil => exact ⟨intact, rfl⟩
  | cons request requests ih =>
    rw [List.mem_cons, not_or] at kept
    obtain ⟨intact', same⟩ := intact.respond request (Ne.symm kept.1)
    rw [← same] at kept
    obtain ⟨intact'', same'⟩ := ih intact' kept.2
    exact ⟨intact'', same'.trans same⟩

end Intact
end Desktop
end Overlay
