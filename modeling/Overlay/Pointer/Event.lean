import Overlay.Geometry.Point

/-!
This module contains the reports of a pointing device: the buttons that are down, and how far it moved.
-/

namespace Overlay

structure Buttons where
  left : Bool
  right : Bool
  middle : Bool
  deriving DecidableEq

namespace Buttons

def none : Buttons := ⟨false, false, false⟩

/-- Reads the buttons from the low three bits of a byte; the other bits do not count. -/
def ofByte (byte : UInt8) : Buttons := ⟨byte &&& 1 != 0, byte &&& 2 != 0, byte &&& 4 != 0⟩

def toByte (b : Buttons) : UInt8 :=
  (if b.left then 1 else 0) ||| (if b.right then 2 else 0) ||| (if b.middle then 4 else 0)

end Buttons

structure PointerEvent where
  buttons : Buttons
  dx : Int8
  dy : Int8
  deriving DecidableEq

namespace PointerEvent

def ofRaw (buttons : UInt8) (dx dy : Int8) : PointerEvent := ⟨.ofByte buttons, dx, dy⟩

def displacement (e : PointerEvent) : Point := ⟨.clamp e.dx.toInt, .clamp e.dy.toInt⟩

end PointerEvent
end Overlay
