import Overlay.Geometry.Point
import Overlay.Log.Level
import Overlay.Pixel.Color
import Overlay.Text.Blank
import Overlay.Text.Numeral

/-!
This module contains the start-up options of a desktop and the command line that they are read from.
Of several words that set the same option the last valid one counts, and all other words are ignored.
-/

namespace Overlay

structure Options where
  background : Color
  cursor : Point
  /-- The least urgent level that is logged. -/
  level : Log.Level
  deriving DecidableEq

inductive Setting where
  | background (color : Color)
  | cursor (position : Point)
  | level (level : Log.Level)
  deriving DecidableEq

namespace Setting

/-- Reads a colour: a hexadecimal numeral of six characters, bare or after `0x` or `#`. -/
def color? (text : List Char) : Option Color :=
  let digits :=
    match text with
    | '0' :: 'x' :: rest => rest
    | '#' :: rest => rest
    | _ => text
  if digits.length = 6 then
    (Text.natural? 16 digits).map fun n => Color.ofWord (UInt32.ofNat n)
  else
    none

def coord? (text : List Char) : Option Coord := (Text.integer? text).bind Coord.ofInt?

def point? (text : List Char) : Option Point :=
  match text.dropWhile (· != ',') with
  | [] => none
  | _ :: rest => do
    let x ← coord? (text.takeWhile (· != ','))
    let y ← coord? rest
    return ⟨x, y⟩

/-- Reads a word of the command line, a key and a value; `none` if the key is unknown or the value
malformed. -/
def ofWord? (word : List Char) : Option Setting :=
  match "desktop.bg=".toList.isPrefixOf? word with
  | some value => (color? value).map .background
  | none =>
    match "mouse.pos=".toList.isPrefixOf? word with
    | some value => (point? value).map .cursor
    | none =>
      match "klog=".toList.isPrefixOf? word with
      | some value => (Log.Level.ofName? value).map .level
      | none => none

end Setting

namespace Options

def standard : Options where
  background := ⟨45, 118, 237⟩
  cursor := ⟨200, 200⟩
  level := .warn

instance : Inhabited Options := ⟨standard⟩

def apply (options : Options) : Setting → Options
  | .background color => { options with background := color }
  | .cursor position => { options with cursor := position }
  | .level level => { options with level := level }

def ofCommandLine (line : String) : Options :=
  ((Text.words line.toList).filterMap Setting.ofWord?).foldl apply standard

end Options
end Overlay
