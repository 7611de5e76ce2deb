import Overlay.Proofs.Pointer.Report

/-!
This module contains the drag gesture over whole runs of reports. A press of the left button takes hold of
a layer, which then goes with the pointer until the button is let go, and nothing else moves.
-/

namespace Overlay

namespace Pointer

open Compositor

def handleAll (pointer : Pointer) (c : Compositor) (events : List PointerEvent) :
    Pointer × Compositor :=
  events.foldl (fun s e => s.1.handle s.2 e) (pointer, c)

def lastButtons (events : List PointerEvent) : Buttons :=
  (events.getLast?.map (·.buttons)).getD .none

variable {pointer : Pointer} {c : Compositor}

theorem steady_create (cursor : LayerId) (screenSize start : Point) (c : Compositor) :
    (create cursor screenSize start).Steady c where
  within := within_confine screenSize start
  coherent := nofun
  holds := nofun

structure Course (cursor : LayerId) (screenSize : Point) (events : List PointerEvent) (pointer : Pointer)
    (c : Compositor) : Prop where
  cursor_eq : pointer.cursor = cursor
  screen_eq : pointer.screenSize = screenSize
  held_eq : pointer.held = lastButtons events
  steady : pointer.Steady c

theorem course_create (cursor : LayerId) (screenSize start : Point) (c : Compositor) :
    Course cursor screenSize [] (create cursor screenSize start) c :=
  ⟨rfl, rfl, rfl, steady_create cursor screenSize start c⟩

variable {cursor : LayerId} {screenSize : Point} {past : List PointerEvent}

theorem Course.handle (course : Course cursor screenSize past pointer c) (e : PointerEvent) :
    Course cursor screenSize (past ++ [e]) (pointer.handle c e).1 (pointer.handle c e).2 := by
  have handled := course.steady.coherent.handled (c := c) e
  constructor
  . exact handled.cursor.trans course.cursor_eq
  . exact handled.screen.trans course.screen_eq
  . rw [handled.held, lastButtons, List.getLast?_concat]
    rfl
  . exact handled.keeps_steady course.steady

theorem Course.handleAll (course : Course cursor screenSize past pointer c)
    (events : List PointerEvent) :
    Course cursor screenSize (past ++ events) (pointer.handleAll c events).1
      (pointer.handleAll c events).2 := by
  induction events generalizing past pointer c with
  | nil =>
    rw [List.append_nil]
    exact course
  | cons e events ih =>
    rw [List.append_cons]
    exact ih (course.handle e)

theorem Steady.carried_all {id : LayerId} (steady : pointer.Steady c) (events : List PointerEvent)
    (dragged : ∀ part, part <+: events → (pointer.handleAll c part).1.drag = .dragging id) :
    let s := pointer.handleAll c events
    s.1.offset? s.2 id = pointer.offset? c id ∧ s.2.Holds id s.1.position := by
  have before := dragged [] List.nil_prefix
  induction events generalizing pointer c with
  | nil => exact ⟨rfl, steady.holds id before⟩
  | cons e events ih =>
    have handled := steady.coherent.handled (c := c) e
    have after := dragged [e] (List.prefix_append [e] events)
    have rest : ∀ part, part <+: events →
        ((pointer.handle c e).1.handleAll (pointer.handle c e).2 part).1.drag = .dragging id := by
      intro part front
      exact dragged (e :: part) ((List.prefix_cons_inj e).mpr front)
    obtain ⟨same, holds⟩ := ih (handled.keeps_steady steady) rest after
    exact ⟨same.trans (handled.carried steady before after).1, holds⟩

structure Gesture (cursor : LayerId) (past : List PointerEvent) (e : PointerEvent)
    (s s' : Pointer × Compositor) : Prop where
  moves : s'.1.position = confine s.1.screenSize (s.1.position + e.displacement)
  at_pointer : ∀ l, s'.2.layer? cursor = some l → l.position = s'.1.position
  begins : ∀ id, s.1.drag = .idle →
    (s'.1.drag = .dragging id
      ↔
    ((lastButtons past).left = false ∧ e.buttons.left = true)
      ∧ s.2.TopmostAt s'.1.position cursor id ∧ ∃ l, s.2.layer? id = some l ∧ l.draggable = true)
  ends : ∀ id, s.1.drag = .dragging id →
    (lastButtons past).left = true ∧ (s'.1.drag = .idle ↔ e.buttons.left = false)
  lasts : ∀ id id', s.1.drag = .dragging id → s'.1.drag = .dragging id' → id' = id
  others : ∀ id, id ≠ cursor → ¬(s.1.drag = .dragging id ∧ s'.1.drag = .dragging id) →
    s'.2.layer? id = s.2.layer? id

theorem Course.gesture (course : Course cursor screenSize past pointer c) (e : PointerEvent) :
    Gesture cursor past e (pointer, c) (pointer.handle c e) := by
  have handled := course.steady.coherent.handled (c := c) e
  generalize pointer.handle c e = s' at *
  obtain ⟨pointer', c'⟩ := s'
  obtain rfl := course.cursor_eq
  constructor
  . exact handled.position
  . intro l found
    rw [handled.layer?_cursor] at found
    obtain ⟨_, _, rfl⟩ := Option.map_eq_some_iff.mp found
    rfl
  . intro id before
    rw [← course.held_eq, handled.begins_iff before]
    constructor
    . intro takes
      exact ⟨⟨takes.up, takes.down⟩, takes.topmost, takes.draggable⟩
    . rintro ⟨⟨up, down⟩, topmost, draggable⟩
      exact ⟨up, down, draggable, topmost⟩
  . intro id before
    rw [← course.held_eq]
    exact ⟨(course.steady.coherent id before).1, handled.ends_iff before⟩
  . intro id id' before after
    exact handled.lasts before after
  . intro id other undragged
    rw [handled.layers, if_neg other, if_neg undragged]

/-- In every run of reports the pointer stays on the screen and the cursor at the pointer; a layer is
dragged only from a press of the left button on it until the button is let go, and all the while it keeps
its place under the pointer; and nothing else moves. -/
theorem drag_gesture (cursor : LayerId) (screenSize start : Point) (c : Compositor)
    (events : List PointerEvent) :
    let run := (create cursor screenSize start).handleAll c
    Within screenSize (run events).1.position
      ∧ (∀ id, (run events).1.drag = .dragging id → (lastButtons events).left = true)
      ∧ (∀ e, Gesture cursor events e (run events) (run (events ++ [e])))
      ∧ ∀ id more, (∀ part, part <+: more → (run (events ++ part)).1.drag = .dragging id) →
        let s := run (events ++ more)
        s.1.offset? s.2 id = (run events).1.offset? (run events).2 id ∧ s.2.Holds id s.1.position := by
  dsimp only
  have course := (course_create cursor screenSize start c).handleAll events
  rw [List.nil_append] at course
  have steps : ∀ more, (create cursor screenSize start).handleAll c (events ++ more)
      = ((create cursor screenSize start).handleAll c events).1.handleAll
        ((create cursor screenSize start).handleAll c events).2 more := by
    intro more
    rw [handleAll, List.foldl_append]
    rfl
  simp only [steps]
  generalize (create cursor screenSize start).handleAll c events = s at *
  refine ⟨?_, ?_, ?_, ?_⟩
  . rw [← course.screen_eq]
    exact course.steady.within
  . intro id dragged
    rw [← course.held_eq]
    exact (course.steady.coherent id dragged).1
  . intro e
    exact course.gesture e
  . intro id more dragged
    exact course.steady.carried_all more dragged

example :
    let w : Window :=
      ⟨⟨⟨4, 4, 12, .rgb888⟩, Storage.zeros 48, by decide, Storage.size_zeros 48⟩, .replicate 16 .black,
        none, rfl, rfl⟩
    let layers : List Layer := [⟨1, ⟨0, 0⟩, some 0, false⟩, ⟨2, ⟨1, 1⟩, some 0, true⟩]
    let c : Compositor := ⟨#[w], ⟨layers, [2, 1], 2⟩, none, .fresh⟩
    let down (dx dy : Int8) : PointerEvent := ⟨⟨true, false, false⟩, dx, dy⟩
    let s := (create 1 ⟨8, 8⟩ ⟨2, 2⟩).handleAll c [down 0 0, down 9 (-1)]
    s.1.drag = .dragging 2 ∧ s.2.layer? 2 = some ⟨2, ⟨6, 0⟩, some 0, true⟩ := by
  decide +kernel

end Pointer
end Overlay
