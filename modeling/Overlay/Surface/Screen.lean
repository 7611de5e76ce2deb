import Overlay.Canvas.Basic
import Overlay.Refusal

/-!
This module contains the physical screen: memory that the platform maps, in a layout that it reports.
Screens have a least size, and a limit on the memory that they may cover.
-/

namespace Overlay

structure Screen where
  layout : Layout
  memory : ByteArray
  valid : layout.Valid
  size_memory : memory.size = layout.byteSize

namespace Screen

def minWidth : Nat := 320

def minHeight : Nat := 240

def maxBytes : Nat := 64 * 1024 * 1024

theorem size_zeroed (layout : Layout) :
    (Storage.zeros layout.byteSize).size = layout.byteSize := Storage.size_zeros _

theorem size_mapped {layout : Layout} {memory : ByteArray} (f : ByteArray → ByteArray)
    (h : ∀ memory, (f memory).size = memory.size) (size_memory : memory.size = layout.byteSize) :
    (f memory).size = layout.byteSize := by
  rw [h, size_memory]

/-- Takes over zeroed screen memory. `mapped` is false for memory at the null address. -/
def ofLayout (log : Log.Logger) (mapped : Bool) (layout : Layout) :
    Except Refusal (Screen × Log.Logger) :=
  if !mapped then
    .error ⟨.noFramebuffer, log.post .nullScreen⟩
  else if valid : layout.Valid ∧ minWidth ≤ layout.width ∧ minHeight ≤ layout.height then
    if layout.byteSize ≤ maxBytes then
      .ok (⟨layout, Storage.zeros layout.byteSize, valid.1, size_zeroed layout⟩,
        log.post (.screenMapped layout))
    else
      .error ⟨.invalidGeometry, log⟩
  else
    .error ⟨.invalidGeometry, log.post (.badScreen layout)⟩

def ofCode (log : Log.Logger) (mapped : Bool) (width height pitch code : Nat) :
    Except Refusal (Screen × Log.Logger) :=
  match PixelFormat.ofCode? code with
  | none => .error ⟨.unsupportedFormat, log.post (.unknownFormat code)⟩
  | some format => ofLayout log mapped ⟨width, height, pitch, format⟩

def holds (screen : Screen) (start length : Nat) : Bool :=
  decide (start + length ≤ screen.layout.byteSize)

@[inline]
def mapMemory (screen : Screen) (f : ByteArray → ByteArray)
    (h : ∀ memory, (f memory).size = memory.size) : Screen :=
  match screen with
  | ⟨layout, memory, valid, size_memory⟩ => ⟨layout, f memory, valid, size_mapped f h size_memory⟩

/-- Encodes a colour beside the memory first, and then stores the bytes of one pixel. -/
def writePixel (screen : Screen) (x y : Nat) (color : Color) : Screen :=
  let start := screen.layout.offset x y
  if screen.holds start screen.layout.bytesPerPixel then
    let staged := screen.layout.format.encodeInto color (Storage.zeros 4)
    let bytes := staged.data.toList.take screen.layout.bytesPerPixel
    screen.mapMemory (Storage.write · start bytes) fun _ => Storage.size_write ..
  else
    screen

/-- Stores a row of pixels: decoded one by one if they are in another format, else as one run, if
all of it lies in the memory. -/
def copyRow (screen : Screen) (x y : Nat) (row : ByteArray) (format : PixelFormat) : Screen :=
  if format ≠ screen.layout.format then
    copyPixels (fun screen x color => screen.writePixel x y color) screen x row format
  else
    let start := screen.layout.offset x y
    if screen.holds start row.size then
      screen.mapMemory (Storage.overwrite · start row) fun _ => Storage.size_overwrite ..
    else
      screen

def pixel? (screen : Screen) (p : Point) : Option Color :=
  if (Rect.ofSize screen.layout.size).contains p then
    some (screen.layout.format.decodeAt screen.memory (screen.layout.offset p.x.toNat p.y.toNat))
  else
    none

instance : Canvas Screen where
  width screen := screen.layout.width
  height screen := screen.layout.height
  format screen := screen.layout.format
  writePixel := writePixel
  copyRow := copyRow

end Screen
end Overlay
