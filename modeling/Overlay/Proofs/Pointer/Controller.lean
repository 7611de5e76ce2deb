import Overlay.Pointer.Controller
import Overlay.Proofs.Compositor.Current
import Overlay.Proofs.Compositor.Hit

/-!
This module contains what the pointer keeps: its position lies on the screen, the layer of the cursor is
there, and a layer that is dragged stays under it. That is why all that it moves is moved on or near the
screen, and the output stays up to date.
-/

namespace Overlay

namespace Compositor

variable {c c' : Compositor} {background id : LayerId} {l : Layer} {p : Point}

theorem restacked_raiseAndDraw (backed : c.Backed background) (current : c.Current)
    (holds : c.Holds id p) :
    ∃ stack, stack.find? = c.stack.find?
      ∧ Restacked c background stack ((c.raise id).drawLayer id) := by
  obtain ⟨l, w, found, window, _⟩ := holds
  have bounds := Layer.bounds?_of_window? window
  unfold raise
  rw [found]
  dsimp only
  split
  . refine ⟨_, ?_, backed.placeAndDraw found bounds (current.off _) (by decide)⟩
    rfl
  . refine ⟨c.stack, rfl, ?_⟩
    rw [drawLayer_of_layer? found bounds]
    exact backed.drawArea (current.off _)

end Compositor

namespace Pointer

open Compositor

variable {c c' : Compositor} {background : LayerId} {pointer : Pointer} {stack : LayerStack}

/-- What holds between a compositor and the pointer that works on it. -/
structure Guides (pointer : Pointer) (c : Compositor) (background : LayerId) : Prop where
  backed : c.Backed background
  current : c.Current
  apart : pointer.cursor ≠ background
  cursor : ∃ l w, c.layer? pointer.cursor = some l ∧ l.window? c.windows = some w
    ∧ l.position = pointer.position
  screen : pointer.screenSize = c.screenSize
  on_screen : (Rect.ofSize c.screenSize).contains pointer.position = true
  drag : ∀ id, pointer.drag = .dragging id →
    pointer.held.left = true ∧ id ≠ pointer.cursor ∧ id ≠ background ∧ c.Holds id pointer.position

theorem contains_origin (w : Window) {p : Point}
    (small : (0 ≤ p.x.val ∧ p.x.val < 8192) ∧ 0 ≤ p.y.val ∧ p.y.val < 8192) :
    (Rect.mk p w.size).contains p = true := by
  have width_pos : 0 < w.width := w.shadow.valid.width_pos
  have height_pos : 0 < w.height := w.shadow.valid.height_pos
  rw [Rect.contains_iff_covers (by omega) (by omega), Rect.covers_mk, Window.val_size_x,
    Window.val_size_y]
  omega

theorem contains_confine {size p : Point}
    (proper : ∃ q, (Rect.ofSize size).contains q = true) :
    (Rect.ofSize size).contains (confine size p) = true := by
  obtain ⟨q, seen⟩ := proper
  have := size.x.le_greatest
  have := size.y.le_greatest
  rw [Rect.contains_ofSize, Rect.covers_ofSize] at seen ⊢
  simp only [confine, Point.confine, Point.origin, Point.x_min, Point.x_max, Point.x_sub, Point.y_min,
    Point.y_max, Point.y_sub, Coord.val_min, Coord.val_max, Coord.val_sub, Coord.val_zero, Coord.val_one]
  constructor <;> omega

theorem guides_create {cursor : LayerId} (backed : c.Backed background) (apart : cursor ≠ background)
    {l : Layer} {w : Window} (found : c.layer? cursor = some l)
    (window : l.window? c.windows = some w) (start : Point) :
    let pointer := create cursor c.screenSize start
    pointer.Guides (c.moveTo cursor pointer.position).draw background := by
  have proper : ∃ q, (Rect.ofSize c.screenSize).contains q = true := by
    obtain ⟨_, w, _, _, _, _, _, size⟩ := backed.full
    refine ⟨.origin, ?_⟩
    rw [← size]
    exact contains_origin w (by decide)
  obtain ⟨area, moved⟩ : ∃ area, c.moveTo cursor (confine c.screenSize start)
      = (c.modifyLayer cursor (·.moveTo (confine c.screenSize start))).drawArea area := by
    rw [Compositor.moveTo, found]
    exact ⟨_, rfl⟩
  have backed' := backed.moveLayer apart (confine c.screenSize start)
  have screen : (c.modifyLayer cursor (·.moveTo (confine c.screenSize start))).screenSize
      = c.screenSize := rfl
  have windows : (c.modifyLayer cursor (·.moveTo (confine c.screenSize start))).windows
      = c.windows := rfl
  dsimp only [create]
  rw [moved]
  obtain ⟨backed'', stack, screen'⟩ := backed'.repaint area
  have windows' := backed'.windows_drawArea area
  -- What is out of date until here does not matter, since all of the screen is drawn at last.
  have drawn := backed''.draw
  exact {
    backed := drawn.backed
    current := drawn.current
    apart := apart
    cursor := by
      refine ⟨l.moveTo (confine c.screenSize start), w, ?_, ?_, rfl⟩
      . rw [drawn.layer?_eq, stack]
        exact LayerStack.find?_moveTo_self found _
      . rw [drawn.windows, windows']
        exact window
    screen := by
      rw [drawn.screen, screen', screen]
    on_screen := by
      rw [drawn.screen, screen', screen]
      exact contains_confine proper
    drag := by
      intro id dragged
      cases dragged }

theorem Guides.keep (guides : pointer.Guides c background) (backed : c'.Backed background)
    (current : c'.Current) (screen : c'.screenSize = c.screenSize)
    (layers : ∀ id l, c.layer? id = some l →
      c'.layer? id = some l ∧ l.window? c'.windows = l.window? c.windows) :
    pointer.Guides c' background where
  backed := backed
  current := current
  apart := guides.apart
  cursor := by
    obtain ⟨l, w, found, window, here⟩ := guides.cursor
    obtain ⟨found', same⟩ := layers _ l found
    exact ⟨l, w, found', same.trans window, here⟩
  screen := guides.screen.trans screen.symm
  on_screen := by
    rw [screen]
    exact guides.on_screen
  drag := by
    intro id dragged
    obtain ⟨down, free, other, l, w, found, window, covers⟩ := guides.drag id dragged
    obtain ⟨found', same⟩ := layers _ l found
    exact ⟨down, free, other, l, w, found', same.trans window, covers⟩

theorem Guides.restack (guides : pointer.Guides c background)
    (result : Restacked c background stack c') (same : stack.find? = c.stack.find?) :
    pointer.Guides c' background := by
  apply guides.keep result.backed result.current result.screen
  intro id l found
  rw [result.layer?_eq, same, result.windows]
  exact ⟨found, rfl⟩

theorem Guides.moveCursor (guides : pointer.Guides c background) {position : Point}
    (seen : (Rect.ofSize c.screenSize).contains position = true) :
    Restacked c background (c.stack.modify pointer.cursor (·.moveTo position))
      (c.moveTo pointer.cursor position) := by
  obtain ⟨l, w, found, window, here⟩ := guides.cursor
  apply guides.backed.moveTo guides.current found guides.apart window guides.on_screen seen
  . rw [here]
    exact contains_origin w (guides.backed.small_of_screen guides.on_screen)
  . exact contains_origin w (guides.backed.small_of_screen seen)

theorem Guides.holds_moveCursor (guides : pointer.Guides c background) {position p : Point}
    (seen : (Rect.ofSize c.screenSize).contains position = true) {id : LayerId}
    (free : id ≠ pointer.cursor) (holds : c.Holds id p) :
    (c.moveTo pointer.cursor position).Holds id p := by
  have moved := guides.moveCursor seen
  rw [Holds, moved.layer?_eq, LayerStack.find?_moveTo_other free, moved.windows]
  exact holds

theorem Guides.move (guides : pointer.Guides c background) {position : Point} {held : Buttons}
    {drag : Drag} (seen : (Rect.ofSize c.screenSize).contains position = true)
    (held_on : ∀ id, drag = .dragging id → held.left = true ∧ id ≠ pointer.cursor ∧ id ≠ background
      ∧ (c.moveTo pointer.cursor position).Holds id position) :
    ({ pointer with position, held, drag } : Pointer).Guides (c.moveTo pointer.cursor position)
      background := by
  have moved := guides.moveCursor seen
  exact {
    backed := moved.backed
    current := moved.current
    apart := guides.apart
    cursor := by
      obtain ⟨l, w, found, window, _⟩ := guides.cursor
      dsimp only
      rw [moved.layer?_eq, LayerStack.find?_moveTo_self found, moved.windows]
      exact ⟨_, w, rfl, window, rfl⟩
    screen := guides.screen.trans moved.screen.symm
    on_screen := by
      rw [moved.screen]
      exact seen
    drag := held_on }

section

variable {w : Window} {start p q : Point}
  (p_small : (0 ≤ p.x.val ∧ p.x.val < 2147483647) ∧ 0 ≤ p.y.val ∧ p.y.val < 2147483647)
  (q_small : (0 ≤ q.x.val ∧ q.x.val < 2147483647) ∧ 0 ≤ q.y.val ∧ q.y.val < 2147483647)
  (holds : (Rect.mk start w.size).contains p = true)
include p_small q_small holds

theorem val_follow :
    (start + (q - p)).x.val - q.x.val = start.x.val - p.x.val
      ∧ (start + (q - p)).y.val - q.y.val = start.y.val - p.y.val := by
  have width_le : w.width ≤ 8192 := w.shadow.valid.width_le
  have height_le : w.height ≤ 8192 := w.shadow.valid.height_le
  rw [Rect.contains_iff_covers (by omega) (by omega), Rect.covers_mk, Window.val_size_x,
    Window.val_size_y] at holds
  simp only [Point.x_add, Point.x_sub, Point.y_add, Point.y_sub, Coord.val_add, Coord.val_sub]
  omega

theorem contains_follow : (Rect.mk (start + (q - p)) w.size).contains q = true := by
  have followed := val_follow p_small q_small holds
  rw [Rect.contains_iff_covers (by omega) (by omega), Rect.covers_mk] at holds ⊢
  omega

end

theorem Guides.moveBy (guides : pointer.Guides c background) {id : LayerId} {p : Point}
    (down : pointer.held.left = true) (free : id ≠ pointer.cursor) (other : id ≠ background)
    (p_seen : (Rect.ofSize c.screenSize).contains p = true) (holds : c.Holds id p) :
    ({ pointer with drag := .dragging id } : Pointer).Guides (c.moveBy id (pointer.position - p))
      background := by
  obtain ⟨l, w, found, window, covers⟩ := holds
  -- The layer covers a point of the screen before and after, so that the hull of both places is exact.
  have p_small := guides.backed.small_of_screen p_seen
  have q_small := guides.backed.small_of_screen guides.on_screen
  have follows := contains_follow (p := p) (q := pointer.position) (by omega) (by omega) covers
  have moved := guides.backed.moveTo guides.current found other window p_seen guides.on_screen covers
    follows
  rw [Compositor.moveBy, found]
  dsimp only
  generalize c.moveTo id _ = c' at *
  exact {
    backed := moved.backed
    current := moved.current
    apart := guides.apart
    cursor := by
      dsimp only
      rw [moved.layer?_eq, LayerStack.find?_moveTo_other (Ne.symm free), moved.windows]
      exact guides.cursor
    screen := guides.screen.trans moved.screen.symm
    on_screen := by
      rw [moved.screen]
      exact guides.on_screen
    drag := by
      intro id' dragged
      cases dragged
      refine ⟨down, free, other, ?_⟩
      rw [Holds, moved.layer?_eq, LayerStack.find?_moveTo_self found, moved.windows]
      exact ⟨_, w, rfl, window, follows⟩ }

theorem Guides.press (guides : pointer.Guides c background) (down : pointer.held.left = true) :
    (pointer.press c).1.Guides (pointer.press c).2 background := by
  unfold Pointer.press
  split
  . exact guides
  . next l under =>
    obtain ⟨under, draggable⟩ := Option.filter_eq_some_iff.mp under
    obtain ⟨found, free, holds⟩ := holds_of_layerAt? under
    -- The background may not be dragged.
    have other : l.id ≠ background := by
      intro same
      obtain ⟨l', _, found', _, fixed, _⟩ := guides.backed.full
      rw [← same, found] at found'
      cases found'
      rw [fixed] at draggable
      cases draggable
    have posted := guides.backed.post guides.current (.dragStart l.id pointer.position)
    have holds' : (c.post (.dragStart l.id pointer.position)).Holds l.id pointer.position := holds
    obtain ⟨stack, same, raised⟩ := restacked_raiseAndDraw posted.backed posted.current holds'
    have guides' : ({ pointer with drag := .dragging l.id } : Pointer).Guides c background := {
      guides with
      drag := by
        intro id dragged
        cases dragged
        exact ⟨down, free, other, holds⟩ }
    exact guides'.restack (posted.trans raised) same

theorem drag_idle_of_up (down : ∀ id, pointer.drag = .dragging id → pointer.held.left = true)
    (up : pointer.held.left = false) : pointer.drag = .idle := by
  cases dragged : pointer.drag with
  | idle => rfl
  | dragging id =>
    have down := down id dragged
    rw [up] at down
    cases down

theorem Guides.drag_idle (guides : pointer.Guides c background) (up : pointer.held.left = false) :
    pointer.drag = .idle :=
  drag_idle_of_up (fun id dragged => (guides.drag id dragged).1) up

theorem Guides.handle (guides : pointer.Guides c background) (e : PointerEvent) :
    (pointer.handle c e).1.Guides (pointer.handle c e).2 background := by
  unfold Pointer.handle
  dsimp only
  have seen : (Rect.ofSize c.screenSize).contains
      (confine pointer.screenSize (pointer.position + e.displacement)) = true := by
    rw [guides.screen]
    exact contains_confine ⟨_, guides.on_screen⟩
  generalize confine pointer.screenSize (pointer.position + e.displacement) = position at *
  -- With only the cursor moved, all is well again but for a layer that is dragged.
  have idle : ({ pointer with position, held := e.buttons, drag := .idle } : Pointer).Guides
      (c.moveTo pointer.cursor position) background := by
    apply guides.move seen
    intro id dragged
    cases dragged
  split
  . next up down =>
    rw [← guides.drag_idle up] at idle
    exact idle.press down
  . next held down =>
    unfold Pointer.follow
    dsimp only
    split
    . next rest =>
      rw [← rest] at idle
      exact idle
    . next id dragged =>
      obtain ⟨_, free, other, holds⟩ := guides.drag id dragged
      have was_seen : (Rect.ofSize (c.moveTo pointer.cursor position).screenSize).contains
          pointer.position = true := by
        rw [(guides.moveCursor seen).screen]
        exact guides.on_screen
      have follows := idle.moveBy down free other was_seen (guides.holds_moveCursor seen free holds)
      rw [← dragged] at follows
      exact follows
  . next held up =>
    unfold Pointer.release
    split
    . next rest =>
      rw [← rest] at idle
      exact idle
    . exact idle.restack (idle.backed.post idle.current _) rfl
  . next up up' =>
    rw [← guides.drag_idle up] at idle
    exact idle

end Pointer
end Overlay
