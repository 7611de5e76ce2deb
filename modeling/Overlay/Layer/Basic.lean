import Overlay.Log.Notice
import Overlay.Surface

/-!
This module contains layers: windows with a position on the screen.
-/

namespace Overlay

structure Layer where
  id : LayerId
  /-- Where the origin of the window lies on the screen. -/
  position : Point
  window : Option WindowId
  /-- Whether the pointer may drag and raise the layer. -/
  draggable : Bool
  deriving DecidableEq

namespace Layer

def blank (id : LayerId) : Layer := ⟨id, .origin, none, false⟩

def moveTo (l : Layer) (position : Point) : Layer := { l with position := position }

def moveBy (l : Layer) (delta : Point) : Layer := l.moveTo (l.position + delta)

def setWindow (l : Layer) (window : WindowId) : Layer := { l with window := some window }

def setDraggable (l : Layer) (draggable : Bool) : Layer := { l with draggable := draggable }

def window? (l : Layer) (windows : Windows) : Option Window := l.window.bind (windows[·]?)

def bounds? (l : Layer) (windows : Windows) : Option Rect :=
  (l.window? windows).map fun w => ⟨l.position, w.size⟩

def drawTo (l : Layer) (windows : Windows) (fb : FrameBuffer) (area : Rect) : FrameBuffer :=
  match l.window? windows with
  | some w => w.drawInto fb l.position area
  | none => fb

end Layer
end Overlay
