import Overlay.Geometry.Point
import Overlay.Layer.Id
import Overlay.Log.Logger
import Overlay.Pixel.Layout
import Overlay.SurfaceError

/-!
This module contains everything that the compositor has to report, with the level and the text of each
report.
-/

namespace Overlay

namespace Log

inductive LayerRequest where
  | remove
  | place
  | hide
  | move
  | draw
  | raise
  deriving DecidableEq

inductive Notice where
  | nullScreen
  | badScreen (layout : Layout)
  | unknownFormat (code : Nat)
  | screenMapped (layout : Layout)
  | backBufferFailed (layout : Layout) (error : SurfaceError)
  | outputBound (layout : Layout)
  | unknownLayer (request : LayerRequest) (id : LayerId)
  | dragStart (id : LayerId) (position : Point)
  | dragEnd (id : LayerId)
  | backgroundFailed (error : SurfaceError)
  | cursorFailed (error : SurfaceError)
  | desktopUp (size : Point)
  | desktopFailed (error : SurfaceError)
  deriving DecidableEq

namespace LayerRequest

def phrase : LayerRequest → String
  | .remove => "remove of"
  | .place => "up_down on"
  | .hide => "hide of"
  | .move => "move of"
  | .draw => "draw of"
  | .raise => "set_to_front on"

end LayerRequest

namespace Notice

def level : Notice → Level
  | .nullScreen | .badScreen _ | .unknownFormat _ => .warn
  | .screenMapped _ => .debug
  | .backBufferFailed .. => .warn
  | .outputBound _ => .info
  | .unknownLayer .. => .warn
  | .dragStart .. | .dragEnd _ => .debug
  | .backgroundFailed _ | .cursorFailed _ => .warn
  | .desktopUp _ => .info
  | .desktopFailed _ => .warn

/-- The text of a report. The address of screen memory is withheld. -/
def text : Notice → String
  | .nullScreen => "Framebuffer init failed: null base address"
  | .badScreen l =>
    let bits := l.bytesPerPixel * 8
    s!"Framebuffer init failed: {l.width}x{l.height} pitch={l.pitch} bpp={bits}"
  | .unknownFormat code => s!"Framebuffer init failed: unknown pixel format {code}"
  | .screenMapped l =>
    s!"Framebuffer init: virt=0x* {l.width}x{l.height} pitch={l.pitch} format={l.format.name}"
  | .backBufferFailed l error =>
    s!"compositor: back buffer {l.width}x{l.height} failed: {error.message}"
  | .outputBound l => s!"compositor: output bound {l.width}x{l.height} {l.format.name}"
  | .unknownLayer request id => s!"compositor: {request.phrase} unknown layer {id}"
  | .dragStart id position =>
    s!"pointer: drag start layer {id} at Point \x7b x: {position.x.val}, y: {position.y.val} \x7d"
  | .dragEnd id => s!"pointer: drag end layer {id}"
  | .backgroundFailed error => s!"desktop: background window failed: {error.message}"
  | .cursorFailed error => s!"desktop: cursor window failed: {error.message}"
  | .desktopUp size => s!"desktop: up at {size.x.val}x{size.y.val}"
  | .desktopFailed error => s!"video: desktop init failed: {error.message}"

end Notice

def Logger.post (log : Logger) (notice : Notice) : Logger := log.write notice.level notice.text

end Log
end Overlay
