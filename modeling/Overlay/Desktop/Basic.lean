import Overlay.Desktop.Chrome
import Overlay.Desktop.Cursor
import Overlay.Options
import Overlay.Pointer.Controller

/-!
This module contains the running desktop: a compositor whose lowest layer is the background and whose
topmost layer is the cursor, with windows in between, and the pointer that moves them.
-/

namespace Overlay

structure Desktop where
  compositor : Compositor
  pointer : Pointer
  background : LayerId
  options : Options

namespace Desktop

def showWindow (c : Compositor) (w : Window) (position : Point) : Compositor × LayerId :=
  let (c, window) := c.addWindow w
  let (c, id) := c.newLayer
  (c.modifyLayer id fun l => (l.setWindow window).moveTo position, id)

/-- Brings up a desktop on an output: logs at the level of the options from now on, paints the
background and the cursor, and draws both. -/
def start (windows : Windows) (log : Log.Logger) (output : Surface) (options : Options) :
    Except Refusal Desktop :=
  let format := (output.packedLayout windows).format
  let c := Compositor.create windows (log.setLevel options.level)
  match c.setOutput output with
  | (c, .error error) => .error ⟨error, c.log⟩
  | (c, .ok ()) =>
    let size := c.screenSize
    match Window.black? size.x.toNat size.y.toNat format with
    | .error error => .error ⟨error, c.log.post (.backgroundFailed error)⟩
    | .ok background =>
      match Cursor.window? format with
      | .error error => .error ⟨error, c.log.post (.cursorFailed error)⟩
      | .ok cursor =>
        let (c, backgroundId) :=
          showWindow c (Chrome.paintDesktop background options.background) .origin
        let (c, cursorId) := showWindow c cursor options.cursor
        let c := (c.place backgroundId 0).place cursorId 1
        let pointer := Pointer.create cursorId size options.cursor
        let c := (c.moveTo cursorId pointer.position).draw
        .ok ⟨c.post (.desktopUp size), pointer, backgroundId, options⟩

def startWith (windows : Windows) (log : Log.Logger) (output : Surface) (line : String) :
    Except Refusal Desktop :=
  match start windows log output (.ofCommandLine line) with
  | .ok desktop => .ok desktop
  | .error refusal => .error (refusal.post (.desktopFailed refusal.error))

def cursor (d : Desktop) : LayerId := d.pointer.cursor

def format (d : Desktop) : PixelFormat :=
  match d.compositor.target with
  | some t => (t.output.packedLayout d.compositor.windows).format
  | none => default

def newWindow (d : Desktop) (width height : Nat) : Except SurfaceError (Desktop × WindowId) :=
  match Window.black? width height d.format with
  | .error error => .error error
  | .ok w =>
    let (compositor, window) := d.compositor.addWindow (Chrome.paintFrame w)
    .ok ({ d with compositor }, window)

/-- Shows a window at `position`, in a new layer right below the cursor that may be dragged. Below more
layers than there are heights, the height wraps around. -/
def addWindow (d : Desktop) (window : WindowId) (position : Point) : Desktop × LayerId :=
  let (c, id) := d.compositor.newLayer
  let c := c.modifyLayer id fun l => ((l.setWindow window).moveTo position).setDraggable true
  let height := (c.height? d.cursor).getD c.stack.order.length
  let c := (c.place id (.wrap height)).drawLayer id
  ({ d with compositor := c }, id)

def handlePointer (d : Desktop) (e : PointerEvent) : Desktop :=
  let (pointer, c) := d.pointer.handle d.compositor e
  let c :=
    if c.stack.order.getLast? = some d.cursor then
      c
    else
      (c.place d.cursor .greatest).drawLayer d.cursor
  { d with compositor := c, pointer }

def handleReport (d : Desktop) (buttons : UInt8) (dx dy : Int8) : Desktop :=
  d.handlePointer (.ofRaw buttons dx dy)

def redraw (d : Desktop) : Desktop := { d with compositor := d.compositor.draw }

end Desktop
end Overlay
