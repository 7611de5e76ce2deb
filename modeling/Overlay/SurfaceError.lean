/-!
This module contains the reasons for which a surface cannot be made. Drawing has none: what lies
outside a surface is clipped.
-/

namespace Overlay

inductive SurfaceError where
  | noFramebuffer
  | invalidGeometry
  | unsupportedFormat
  | outOfMemory
  deriving DecidableEq

namespace SurfaceError

def message : SurfaceError → String
  | .noFramebuffer => "no framebuffer"
  | .invalidGeometry => "invalid geometry"
  | .unsupportedFormat => "unsupported pixel format"
  | .outOfMemory => "out of memory"

end SurfaceError
end Overlay
