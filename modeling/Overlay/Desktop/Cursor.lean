import Overlay.Surface.Window

/-!
This module contains the picture of the mouse cursor: an arrow whose hot spot is its top left corner.
-/

namespace Overlay
namespace Cursor

def width : Nat := 15

def height : Nat := 24

/-- The colour around the arrow, which no visible part of it has. -/
def keyColor : Color := ⟨0, 0, 1⟩

/-- The arrow row by row, its outline as `@` and its inside as `.`. -/
def shape : List String :=
  [
    "@              ",
    "@@             ",
    "@.@            ",
    "@..@           ",
    "@...@          ",
    "@....@         ",
    "@.....@        ",
    "@......@       ",
    "@.......@      ",
    "@........@     ",
    "@.........@    ",
    "@..........@   ",
    "@...........@  ",
    "@............@ ",
    "@......@@@@@@@@",
    "@......@       ",
    "@....@@.@      ",
    "@...@ @.@      ",
    "@..@   @.@     ",
    "@.@    @.@     ",
    "@@      @.@    ",
    "@       @.@    ",
    "         @.@   ",
    "         @@@   " ]

def cellColor (cell : Char) : Color :=
  match cell with
  | '@' => .black
  | '.' => .white
  | _ => keyColor

def paintRow [Canvas σ] (s : σ) (p : Point) (row : List Char) : σ :=
  go s 0 row
where
  go (s : σ) (i : Nat) : List Char → σ
    | [] => s
    | cell :: cells => go (Canvas.put s (p + ⟨.clamp i, 0⟩) (cellColor cell)) (i + 1) cells

/-- Paints the cursor with its hot spot at `p`. The cells around the arrow are painted too. -/
def paint [Canvas σ] (s : σ) (p : Point) : σ :=
  go s 0 shape
where
  go (s : σ) (i : Nat) : List String → σ
    | [] => s
    | row :: rows => go (paintRow s (p + ⟨0, .clamp i⟩) row.toList) (i + 1) rows

def window? (format : PixelFormat) : Except SurfaceError Window := do
  let w ← Window.black? width height format
  return paint (w.setKey (some keyColor)) .origin

end Cursor
end Overlay
