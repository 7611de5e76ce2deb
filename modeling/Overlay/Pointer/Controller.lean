import Overlay.Compositor
import Overlay.Pointer.Event

/-!
This module contains the pointer: it moves the layer of the cursor, and drags the layer that was under
the cursor when the left button went down, until the button is let go.
-/

namespace Overlay

inductive Drag where
  | idle
  | dragging (id : LayerId)
  deriving DecidableEq

structure Pointer where
  position : Point
  screenSize : Point
  /-- The buttons that were down at the last event. -/
  held : Buttons
  drag : Drag
  cursor : LayerId
  deriving DecidableEq

namespace Pointer

/-- Confines a point to a screen of the given size, of which at least the origin counts as inside. -/
def confine (screenSize p : Point) : Point :=
  p.confine .origin (max (screenSize - ⟨1, 1⟩) .origin)

def create (cursor : LayerId) (screenSize start : Point) : Pointer :=
  ⟨confine screenSize start, screenSize, .none, .idle, cursor⟩

/-- Begins to drag the topmost layer under the pointer, which comes to the front; nothing happens if
that layer may not be dragged. -/
def press (pointer : Pointer) (c : Compositor) : Pointer × Compositor :=
  match (c.layerAt? pointer.position pointer.cursor).filter (·.draggable) with
  | none => (pointer, c)
  | some l =>
    let c := c.post (.dragStart l.id pointer.position)
    ({ pointer with drag := .dragging l.id }, (c.raise l.id).drawLayer l.id)

def follow (pointer : Pointer) (c : Compositor) (delta : Point) : Compositor :=
  match pointer.drag with
  | .idle => c
  | .dragging id => c.moveBy id delta

def release (pointer : Pointer) (c : Compositor) : Pointer × Compositor :=
  match pointer.drag with
  | .idle => (pointer, c)
  | .dragging id => ({ pointer with drag := .idle }, c.post (.dragEnd id))

/-- Applies one report. A dragged layer moves as far as the pointer does, which may be less than the
device did at the edge of the screen. -/
def handle (pointer : Pointer) (c : Compositor) (e : PointerEvent) : Pointer × Compositor :=
  let position := confine pointer.screenSize (pointer.position + e.displacement)
  let delta := position - pointer.position
  let c := c.moveTo pointer.cursor position
  let moved := { pointer with position := position, held := e.buttons }
  match pointer.held.left, e.buttons.left with
  | false, true => moved.press c
  | true, true => (moved, moved.follow c delta)
  | true, false => moved.release c
  | false, false => (moved, c)

end Pointer
end Overlay
