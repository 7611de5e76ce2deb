import Overlay.Pixel.Color
import Overlay.Pixel.Storage

/-!
This module contains the layouts of one pixel in memory, and how a colour is written and read back in
each of them.
-/

namespace Overlay

/-- The order of the channels of a pixel, and whether a reserved byte follows them. -/
inductive PixelFormat where
  | rgbx8888
  | bgrx8888
  | rgb888
  | bgr888
  deriving DecidableEq, Inhabited

namespace PixelFormat

def ofCode? (code : Nat) : Option PixelFormat :=
  match code with
  | 0 => some .rgbx8888
  | 1 => some .bgrx8888
  | 2 => some .rgb888
  | 3 => some .bgr888
  | _ => none

def code : PixelFormat → Nat
  | .rgbx8888 => 0
  | .bgrx8888 => 1
  | .rgb888 => 2
  | .bgr888 => 3

def name : PixelFormat → String
  | .rgbx8888 => "Rgbx8888"
  | .bgrx8888 => "Bgrx8888"
  | .rgb888 => "Rgb888"
  | .bgr888 => "Bgr888"

def bytesPerPixel : PixelFormat → Nat
  | .rgbx8888 | .bgrx8888 => 4
  | .rgb888 | .bgr888 => 3

def isBgr : PixelFormat → Bool
  | .rgbx8888 | .rgb888 => false
  | .bgrx8888 | .bgr888 => true

/-- The bytes of one pixel. The reserved byte is zero. -/
def encode (format : PixelFormat) (c : Color) : List UInt8 :=
  match format with
  | .rgbx8888 => [c.r, c.g, c.b, 0]
  | .bgrx8888 => [c.b, c.g, c.r, 0]
  | .rgb888 => [c.r, c.g, c.b]
  | .bgr888 => [c.b, c.g, c.r]

@[simp]
theorem length_encode (format : PixelFormat) (c : Color) :
    (format.encode c).length = format.bytesPerPixel := by
  cases format <;> rfl

/-- Writes a colour to the front of `out`, which is left alone if it cannot hold a pixel. -/
def encodeInto (format : PixelFormat) (c : Color) (out : ByteArray) : ByteArray :=
  if out.size < format.bytesPerPixel then out else Storage.write out 0 (format.encode c)

/-- Reads the colour whose bytes begin at `offset`; black if fewer than three bytes are left. -/
def decodeAt (format : PixelFormat) (bytes : ByteArray) (offset : Nat) : Color :=
  if h : offset + 3 ≤ bytes.size then
    if format.isBgr then
      ⟨bytes[offset + 2], bytes[offset + 1], bytes[offset]⟩
    else
      ⟨bytes[offset], bytes[offset + 1], bytes[offset + 2]⟩
  else
    .black

def decode (format : PixelFormat) (bytes : ByteArray) : Color := format.decodeAt bytes 0

end PixelFormat
end Overlay
