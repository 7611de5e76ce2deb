import Overlay.Log.Notice

/-!
This module contains refusals: what is left of a construction that failed, namely the reason and the
log with all that was said about it.
-/

namespace Overlay

structure Refusal where
  error : SurfaceError
  log : Log.Logger

namespace Refusal

def post (refusal : Refusal) (notice : Log.Notice) : Refusal :=
  { refusal with log := refusal.log.post notice }

end Refusal
end Overlay
