import Overlay.Surface.FrameBuffer
import Overlay.Surface.Raster
import Overlay.Surface.Screen
import Overlay.Surface.Window

/-!
This module contains the surfaces that a compositor can draw on. Windows are shared: they are kept in
one store, and a surface that is a window only holds its number there.
-/

namespace Overlay

abbrev WindowId := Nat

abbrev Windows := Array Window

inductive Surface where
  | buffer (fb : FrameBuffer)
  | screen (display : Screen)
  | raster (grid : Raster)
  | window (id : WindowId)

namespace Surface

/-- Asks something of a surface. A number that no window has stands for a surface without pixels. -/
def inspect (s : Surface) (windows : Windows) (f : {σ : Type} → [Canvas σ] → σ → α) : α :=
  match s with
  | .buffer fb => f fb
  | .screen display => f display
  | .raster grid => f grid
  | .window id =>
    match windows[id]? with
    | some w => f w
    | none => f (Raster.hollow 0 0 default)

/-- Paints on a surface. What is painted on a window changes it in the store. -/
def paint (s : Surface) (windows : Windows) (f : {σ : Type} → [Canvas σ] → σ → σ) :
    Surface × Windows :=
  match s with
  | .buffer fb => (.buffer (f fb), windows)
  | .screen display => (.screen (f display), windows)
  | .raster grid => (.raster (f grid), windows)
  | .window id => (.window id, windows.modify id f)

def pixel? (s : Surface) (windows : Windows) (p : Point) : Option Color :=
  match s with
  | .buffer fb => fb.pixel? p
  | .screen display => display.pixel? p
  | .raster grid => grid.pixel? p
  | .window id => windows[id]?.bind (·.pixel? p)

/-- The layout without row padding of a surface like this one. -/
def packedLayout (s : Surface) (windows : Windows) : Layout :=
  s.inspect windows fun s => .packed (Canvas.width s) (Canvas.height s) (Canvas.format s)

end Surface
end Overlay
