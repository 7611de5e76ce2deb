/-!
This module contains the numbers of layers.
-/

namespace Overlay

/-- A layer is known by a number, which is never given out twice. -/
abbrev LayerId := Nat

end Overlay
