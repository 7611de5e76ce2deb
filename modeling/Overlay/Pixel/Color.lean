/-!
This module contains opaque colours. Nothing is ever blended: two colours are equal or one of them wins.
-/

namespace Overlay

@[ext]
structure Color where
  r : UInt8
  g : UInt8
  b : UInt8
  deriving DecidableEq, Inhabited

namespace Color

def black : Color := ⟨0, 0, 0⟩

def white : Color := ⟨0xFF, 0xFF, 0xFF⟩

/-- The colour of a word `0xRRGGBB`; the top byte does not count. -/
def ofWord (word : UInt32) : Color :=
  ⟨(word >>> 16).toUInt8, (word >>> 8).toUInt8, word.toUInt8⟩

def toWord (c : Color) : UInt32 :=
  (c.r.toUInt32 <<< 16) ||| (c.g.toUInt32 <<< 8) ||| c.b.toUInt32

end Color
end Overlay
