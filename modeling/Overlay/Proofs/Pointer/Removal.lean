import Overlay.Proofs.Compositor.Calls
import Overlay.Proofs.Pointer.Report

/-!
This module contains what becomes of a layer that was removed: it stays gone whatever is done later, each
call that names it is refused with one warning, and a pointer that still drags it moves nothing with it.
-/

namespace Overlay

namespace Compositor

variable {c : Compositor} {id : LayerId}

/-- Whether a number was given out, and no layer has it any more. -/
structure Gone (c : Compositor) (id : LayerId) : Prop where
  given : id ≤ c.stack.lastId
  unknown : id ∉ c.stack.ids

namespace Gone

theorem layer?_eq (gone : c.Gone id) : c.layer? id = none := by
  rw [← Option.not_isSome_iff_eq_none, layer?, LayerStack.isSome_find?]
  exact gone.unknown

theorem rearrange (gone : c.Gone id) {c' : Compositor} (change : Rearranged c.stack c'.stack) :
    c'.Gone id where
  given := by
    rw [change.lastId]
    exact gone.given
  unknown := by
    rw [change.ids]
    exact gone.unknown

theorem perform (gone : c.Gone id) (call : Call) : (c.perform call).Gone id := by
  cases call with
  | newLayer =>
    constructor
    . exact Nat.le_succ_of_le gone.given
    . show id ∉ c.stack.add.ids
      rw [LayerStack.ids_add, List.mem_append, List.mem_singleton]
      rintro (known | rfl)
      . exact gone.unknown known
      -- The new number is past all that were given out.
      . exact Nat.not_succ_le_self _ gone.given
  | removeLayer other =>
    constructor
    . rw [Compositor.perform, lastId_removeLayer]
      exact gone.given
    . rw [Compositor.perform, ids_removeLayer, List.mem_filter]
      rintro ⟨known, _⟩
      exact gone.unknown known
  | _ =>
    apply gone.rearrange
    apply rearranged_perform
    . intro same
      cases same
    . intro other same
      cases same

end Gone

theorem gone_removeLayer (proper : c.stack.Proper) (known : (c.layer? id).isSome = true) :
    (c.removeLayer id).Gone id := by
  rw [layer?, LayerStack.isSome_find?] at known
  constructor
  . rw [lastId_removeLayer]
    exact (proper.numbered id known).2
  . rw [ids_removeLayer, List.mem_filter]
    rintro ⟨_, other⟩
    rw [bne_self_eq_false] at other
    cases other

end Compositor

namespace Pointer

variable {pointer pointer' : Pointer} {c c' : Compositor} {id : LayerId}

structure DragsNothing (pointer : Pointer) (c : Compositor) (id : LayerId) (e : PointerEvent)
    (pointer' : Pointer) (c' : Compositor) : Prop where
  drag : pointer'.drag = if e.buttons.left then .dragging id else .idle
  held : pointer'.held = e.buttons
  position : pointer'.position = confine pointer.screenSize (pointer.position + e.displacement)
  order : c'.stack.order = c.stack.order
  layers : ∀ id', c'.layer? id'
    =
    if id' = pointer.cursor then (c.layer? id').map (·.moveTo pointer'.position) else c.layer? id'

theorem Handled.drag_eq {e : PointerEvent} (handled : Handled pointer c e pointer' c')
    (dragged : pointer.drag = .dragging id) :
    pointer'.drag = if e.buttons.left then .dragging id else .idle := by
  cases left : e.buttons.left with
  | false => exact (handled.ends_iff dragged).mpr left
  | true =>
    cases after : pointer'.drag with
    | idle =>
      have up := (handled.ends_iff dragged).mp after
      rw [left] at up
      cases up
    | dragging id' =>
      rw [handled.lasts dragged after]
      rfl

theorem Handled.dragsNothing {e : PointerEvent} (handled : Handled pointer c e pointer' c')
    (dragged : pointer.drag = .dragging id) (unknown : c.layer? id = none) :
    DragsNothing pointer c id e pointer' c' where
  drag := handled.drag_eq dragged
  held := handled.held
  position := handled.position
  order := by
    rcases handled.order with ⟨_, same⟩ | ⟨_, ⟨idle, _⟩, _⟩
    . exact same
    . rw [dragged] at idle
      cases idle
  layers := by
    intro id'
    rw [handled.layers]
    split
    . rfl
    . split
      . next hit =>
        obtain ⟨before, _⟩ := hit
        rw [dragged] at before
        cases before
        rw [unknown]
        rfl
      . rfl

end Pointer

open Compositor

structure Session where
  compositor : Compositor
  pointers : List Pointer

namespace Session

inductive Deed where
  | call (call : Call)
  | addPointer (cursor : LayerId) (screenSize start : Point)
  | report (index : Nat) (e : PointerEvent)
  | setLog (log : Log.Logger)

def begin (windows : Windows) (log : Log.Logger) : Session := ⟨.create windows log, []⟩

def act (s : Session) : Deed → Session
  | .call call => { s with compositor := s.compositor.perform call }
  | .addPointer cursor screenSize start =>
    { s with pointers := s.pointers ++ [.create cursor screenSize start] }
  | .report index e =>
    match s.pointers[index]? with
    | none => s
    | some pointer =>
      let (pointer, compositor) := pointer.handle s.compositor e
      { compositor, pointers := s.pointers.set index pointer }
  | .setLog log => { s with compositor := { s.compositor with log } }

def actAll (s : Session) (deeds : List Deed) : Session := deeds.foldl act s

variable {s : Session} {id : LayerId} {deed : Deed}

theorem actAll_of_act {P : Session → Prop} (keeps : ∀ s deed, P s → P (s.act deed)) (start : P s)
    (deeds : List Deed) : P (s.actAll deeds) := by
  induction deeds generalizing s with
  | nil => exact start
  | cons deed deeds ih => exact ih (keeps s deed start)

theorem rearranged_act (other : ∀ call, deed ≠ .call call) :
    Rearranged s.compositor.stack (s.act deed).compositor.stack := by
  cases deed with
  | call call => exact absurd rfl (other call)
  | addPointer cursor screenSize start => exact .same
  | report index e =>
    rw [act]
    split
    . exact .same
    . next pointer _ => exact pointer.rearranged_handle s.compositor e
  | setLog log => exact .same

structure Regular (s : Session) : Prop where
  proper : s.compositor.stack.Proper
  coherent : ∀ pointer ∈ s.pointers, pointer.Coherent

theorem regular_begin (windows : Windows) (log : Log.Logger) : (begin windows log).Regular where
  proper := .empty
  coherent := List.forall_mem_nil _

namespace Regular

theorem act (regular : s.Regular) (deed : Deed) : (s.act deed).Regular where
  proper := by
    cases deed with
    | call call => exact proper_perform regular.proper call
    | _ =>
      refine (rearranged_act ?_).proper regular.proper
      intro call same
      cases same
  coherent := by
    cases deed with
    | call call => exact regular.coherent
    | addPointer cursor screenSize start =>
      intro pointer mem
      rw [Session.act, List.mem_append, List.mem_singleton] at mem
      rcases mem with before | rfl
      . exact regular.coherent pointer before
      . nofun
    | report index e =>
      rw [Session.act]
      split
      . exact regular.coherent
      . next pointer found =>
        have coherent := regular.coherent pointer (List.mem_of_getElem? found)
        intro pointer' mem
        rcases List.mem_or_eq_of_mem_set mem with before | rfl
        . exact regular.coherent pointer' before
        . exact (coherent.handled e).keeps_coherent coherent
    | setLog log => exact regular.coherent

theorem actAll (regular : s.Regular) (deeds : List Deed) : (s.actAll deeds).Regular :=
  actAll_of_act (fun _ deed regular => regular.act deed) regular deeds

end Regular

theorem gone_act (gone : s.compositor.Gone id) (deed : Deed) : (s.act deed).compositor.Gone id := by
  cases deed with
  | call call => exact gone.perform call
  | _ =>
    apply gone.rearrange
    apply rearranged_act
    intro call same
    cases same

theorem gone_actAll (gone : s.compositor.Gone id) (deeds : List Deed) :
    (s.actAll deeds).compositor.Gone id :=
  actAll_of_act (P := fun s => s.compositor.Gone id) (fun _ deed gone => gone_act gone deed) gone deeds

/-- Once a layer is removed, it does not exist and is not visible whatever is done later. A call that asks
something of it changes nothing, but for one warning that it writes. A pointer that still drags it goes on
with the device and lets go as always, but moves only the cursor. -/
theorem removed_stays_gone (windows : Windows) (log : Log.Logger) (before after : List Deed)
    (known : (((begin windows log).actAll before).compositor.layer? id).isSome = true) :
    let s := (begin windows log).actAll (before ++ .call (.removeLayer id) :: after)
    let c := s.compositor
    c.layer? id = none ∧ id ∉ c.stack.order
      ∧ (∀ (call : Call) (request : Log.LayerRequest), call.asks? = some (request, id) →
        c.perform call
          =
        { c with log := c.log.write .warn (Log.Notice.unknownLayer request id).text })
      ∧ ∀ pointer ∈ s.pointers, pointer.drag = .dragging id → ∀ e,
        pointer.DragsNothing c id e (pointer.handle c e).1 (pointer.handle c e).2 := by
  dsimp only
  have first := (regular_begin windows log).actAll before
  have regular := (regular_begin windows log).actAll (before ++ .call (.removeLayer id) :: after)
  have gone : ((begin windows log).actAll
      (before ++ .call (.removeLayer id) :: after)).compositor.Gone id := by
    rw [actAll, List.foldl_append]
    exact gone_actAll (gone_removeLayer first.proper known) after
  generalize (begin windows log).actAll (before ++ .call (.removeLayer id) :: after) = s at *
  refine ⟨gone.layer?_eq, regular.proper.hidden_of_unknown gone.unknown, ?_, ?_⟩
  . intro call request asked
    exact perform_of_unknown gone.layer?_eq asked
  . intro pointer mem dragged e
    exact ((regular.coherent pointer mem).handled e).dragsNothing dragged gone.layer?_eq

theorem removed_stays_gone_while_dragged :
    ∃ windows log before after,
      let s := (begin windows log).actAll (before ++ .call (.removeLayer 2) :: after)
      (((begin windows log).actAll before).compositor.layer? 2).isSome = true
        ∧ s.compositor.layer? 2 = none ∧ 2 ∉ s.compositor.stack.order
        ∧ (∀ height, s.compositor.place 2 height
          =
        { s.compositor with
          log := s.compositor.log.write .warn (Log.Notice.unknownLayer .place 2).text })
        ∧ ∃ pointer ∈ s.pointers, pointer.drag = .dragging 2
          ∧ ∀ e, pointer.DragsNothing s.compositor 2 e (pointer.handle s.compositor e).1
            (pointer.handle s.compositor e).2 := by
  let w : Window :=
    ⟨⟨.packed 1 1 .rgb888, Storage.zeros 3, by decide, Storage.size_zeros 3⟩, #[.white], none, rfl, rfl⟩
  let setUp : List Deed := [.call .newLayer, .call .newLayer, .call (.editLayer 2 (.setWindow 0)),
    .call (.editLayer 2 (.setDraggable true)), .call (.place 2 0), .addPointer 1 ⟨4, 3⟩ .origin]
  let press : Deed := .report 0 ⟨⟨true, false, false⟩, 0, 0⟩
  let drag : Deed := .report 0 ⟨⟨true, false, false⟩, 3, 1⟩
  have known : (((begin #[w] .fresh).actAll (setUp ++ [press])).compositor.layer? 2).isSome = true := by
    decide +kernel
  have gone := removed_stays_gone #[w] .fresh (setUp ++ [press]) [drag] known
  have dragged : ∃ pointer ∈ ((begin #[w] .fresh).actAll
      (setUp ++ [press] ++ [.call (.removeLayer 2), drag])).pointers, pointer.drag = .dragging 2 := by
    decide +kernel
  obtain ⟨missing, hidden, refused, idle⟩ := gone
  obtain ⟨pointer, mem, dragged⟩ := dragged
  exact ⟨#[w], .fresh, setUp ++ [press], [drag], known, missing, hidden,
    fun height => refused (.place 2 height) .place rfl, pointer, mem, dragged, idle pointer mem dragged⟩

end Session
end Overlay
