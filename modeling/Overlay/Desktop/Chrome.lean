import Overlay.Canvas.Shapes

/-!
This module contains the two fixed paintings: the desktop with its task bar, and the frame of a window
with its title bar. Both work on any surface, of which they paint every pixel.
-/

namespace Overlay
namespace Chrome

def taskBarHeight : Coord := 50

def taskBarColor : Color := ⟨1, 8, 17⟩

def startAreaColor : Color := ⟨80, 80, 80⟩

def startButtonColor : Color := ⟨160, 160, 160⟩

def titleBarHeight : Coord := 18

def faceColor : Color := ⟨0xC6, 0xC6, 0xC6⟩

def lightColor : Color := ⟨0xFF, 0xFF, 0xFF⟩

def shadeColor : Color := ⟨0x84, 0x84, 0x84⟩

def darkColor : Color := ⟨0, 0, 0⟩

def titleBarColor : Color := ⟨0, 0, 0x84⟩

def startAreaWidth (width : Coord) : Coord := .clamp (width.val.tdiv 5)

variable {σ : Type} [Canvas σ]

def paintDesktop (s : σ) (background : Color) : σ :=
  let size := Canvas.extent s
  let top := size.y - taskBarHeight
  let s := (Canvas.fillBlock s ⟨0, 0⟩ ⟨size.x, top⟩ background).1
  let s := (Canvas.fillBlock s ⟨0, top⟩ ⟨size.x, taskBarHeight⟩ taskBarColor).1
  let s := (Canvas.fillBlock s ⟨0, top⟩ ⟨startAreaWidth size.x, taskBarHeight⟩ startAreaColor).1
  (Canvas.outline s ⟨10, size.y - 40⟩ ⟨30, 30⟩ startButtonColor).1

def paintFrame (s : σ) : σ :=
  let size := Canvas.extent s
  let band (x y width height : Coord) (color : Color) (s : σ) : σ :=
    Canvas.fillRect s ⟨⟨x, y⟩, ⟨width, height⟩⟩ color
  s |> band 0 0 size.x 1 faceColor
    |> band 1 1 (size.x - 2) 1 lightColor
    |> band 0 0 1 size.y faceColor
    |> band 1 1 1 (size.y - 2) lightColor
    |> band (size.x - 2) 1 1 (size.y - 2) shadeColor
    |> band (size.x - 1) 0 1 size.y darkColor
    |> band 2 2 (size.x - 4) (size.y - 4) faceColor
    |> band 3 3 (size.x - 6) titleBarHeight titleBarColor
    |> band 1 (size.y - 2) (size.x - 2) 1 shadeColor
    |> band 0 (size.y - 1) size.x 1 darkColor

end Chrome
end Overlay
