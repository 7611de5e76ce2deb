import Overlay.Layer.Stack

/-!
This module contains the compositor: the windows, the stack of layers that show them, and the output
that the stack is drawn on. What is drawn is first composed in a back buffer, and only the area in
question is then copied to the output.
-/

namespace Overlay

/-- An output and the back buffer behind it. The two could be kept apart, each of them there or missing, but
binding an output is all that ever sets them, and sets both at once after its only step that can fail. That
neither is there without the other therefore lies in this type, and is no theorem; that both have the same
layout is one. -/
structure Target where
  output : Surface
  back : FrameBuffer

structure Compositor where
  windows : Windows
  stack : LayerStack
  target : Option Target
  log : Log.Logger

namespace Compositor

def create (windows : Windows) (log : Log.Logger) : Compositor := ⟨windows, .empty, none, log⟩

def post (c : Compositor) (notice : Log.Notice) : Compositor := { c with log := c.log.post notice }

def refuse (c : Compositor) (request : Log.LayerRequest) (id : LayerId) : Compositor :=
  c.post (.unknownLayer request id)

def addWindow (c : Compositor) (w : Window) : Compositor × WindowId :=
  ({ c with windows := c.windows.push w }, c.windows.size)

def modifyWindow (c : Compositor) (id : WindowId) (f : Window → Window) : Compositor :=
  { c with windows := c.windows.modify id f }

/-- Draws on `output` from now on. An output for which no back buffer can be made is refused, and the
one before it stays. -/
def setOutput (c : Compositor) (output : Surface) : Compositor × Except SurfaceError Unit :=
  let layout := output.packedLayout c.windows
  match FrameBuffer.ofLayout? layout with
  | .error error => (c.post (.backBufferFailed layout error), .error error)
  | .ok back => ({ c.post (.outputBound layout) with target := some ⟨output, back⟩ }, .ok ())

/-- The far corner of the output; the origin if there is none. -/
def screenSize (c : Compositor) : Point :=
  match c.target with
  | some t => t.output.inspect c.windows Canvas.extent
  | none => .origin

def layer? (c : Compositor) (id : LayerId) : Option Layer := c.stack.find? id

def height? (c : Compositor) (id : LayerId) : Option Nat := c.stack.height? id

def newLayer (c : Compositor) : Compositor × LayerId :=
  let stack := c.stack.add
  ({ c with stack }, stack.lastId)

def modifyLayer (c : Compositor) (id : LayerId) (f : Layer → Layer) : Compositor :=
  { c with stack := c.stack.modify id f }

def removeLayer (c : Compositor) (id : LayerId) : Compositor :=
  match c.layer? id with
  | none => c.refuse .remove id
  | some _ => { c with stack := c.stack.erase id }

def hide (c : Compositor) (id : LayerId) : Compositor :=
  match c.layer? id with
  | none => c.refuse .hide id
  | some _ => { c with stack := c.stack.hide id }

/-- Puts a layer at a height among the visible ones. A negative height hides it, and one past the top
puts it on top. Nothing is redrawn. -/
def place (c : Compositor) (id : LayerId) (height : Coord) : Compositor :=
  match c.layer? id with
  | none => c.refuse .place id
  | some _ => if height < 0 then c.hide id else { c with stack := c.stack.place id height.toNat }

def raise (c : Compositor) (id : LayerId) : Compositor :=
  match c.layer? id with
  | none => c.refuse .raise id
  | some l => if l.draggable && (c.height? id).isSome then c.place id .greatest else c

def layerAt? (c : Compositor) (p : Point) (except : LayerId) : Option Layer :=
  c.stack.topmostAt? c.windows p except

/-- Draws the visible layers over what a buffer holds, bottom first, as far as they lie in `area`. -/
def compose (c : Compositor) (back : FrameBuffer) (area : Rect) : FrameBuffer :=
  c.stack.visible.foldl (fun back l => l.drawTo c.windows back area) back

def drawArea (c : Compositor) (area : Rect) : Compositor :=
  match c.target with
  | none => c
  | some t =>
    let area := area.inter t.back.bounds
    if area.isEmpty then
      c
    else
      let back := c.compose t.back area
      let (output, windows) := t.output.paint c.windows fun s => back.copyTo s area.pos area
      { c with windows, target := some ⟨output, back⟩ }

def drawLayer (c : Compositor) (id : LayerId) : Compositor :=
  match c.layer? id with
  | none => c.refuse .draw id
  | some l =>
    match l.bounds? c.windows with
    | some area => c.drawArea area
    | none => c

def draw (c : Compositor) : Compositor := c.drawArea (.ofSize c.screenSize)

/-- Moves a layer, and draws the area that it leaves and the one that it then covers. -/
def moveTo (c : Compositor) (id : LayerId) (position : Point) : Compositor :=
  match c.layer? id with
  | none => c.refuse .move id
  | some l =>
    let area :=
      match l.bounds? c.windows, (l.moveTo position).bounds? c.windows with
      | some left, some covered => left.hull covered
      | some left, none => left
      | none, some covered => covered
      | none, none => .empty
    (c.modifyLayer id (·.moveTo position)).drawArea area

def moveBy (c : Compositor) (id : LayerId) (delta : Point) : Compositor :=
  match c.layer? id with
  | none => c.refuse .move id
  | some l => c.moveTo id (l.position + delta)

end Compositor
end Overlay
