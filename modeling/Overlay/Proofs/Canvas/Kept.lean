import Overlay.Desktop.Chrome
import Overlay.Desktop.Cursor
import Overlay.Proofs.Canvas.Related

/-!
This module contains the induction principle of painting: what storing one pixel keeps, all paintings
keep, since they only ever store pixels.
-/

namespace Overlay

namespace Canvas

variable {σ : Type} [Canvas σ]

def Kept (P : σ → Prop) : Prop := ∀ s x y color, P s → P (writePixel s x y color)

namespace Kept

variable {P : σ → Prop} (kept : Kept P) {s : σ}
include kept

theorem copyPixels (hs : P s) (x y : Nat) (row : ByteArray) (format : PixelFormat) :
    P (copyPixels (fun s x color => writePixel s x y color) s x row format) := by
  apply Loop.invariant
  . exact hs
  . intro i _ s hs
    apply kept
    exact hs

omit kept in
theorem related (P : σ → Prop) : Related fun s t : σ => s = t ∧ P s where
  width h := congrArg width h.1
  height h := congrArg height h.1

theorem written (s t : σ) (x y : Nat) (color : Color) (h : s = t ∧ P s) :
    writePixel s x y color = writePixel t x y color ∧ P (writePixel s x y color) := by
  obtain ⟨rfl, hs⟩ := h
  exact ⟨rfl, kept s x y color hs⟩

theorem put (hs : P s) (p : Point) (color : Color) : P (put s p color) :=
  ((related P).put ⟨rfl, hs⟩ kept.written p color).2

theorem hline (hs : P s) (x0 x1 y : Coord) (color : Color) : P (hline s x0 x1 y color) :=
  ((related P).hline ⟨rfl, hs⟩ kept.written x0 x1 y color).2

theorem vline (hs : P s) (x y0 y1 : Coord) (color : Color) : P (vline s x y0 y1 color) :=
  ((related P).vline ⟨rfl, hs⟩ kept.written x y0 y1 color).2

theorem fillRect (hs : P s) (rect : Rect) (color : Color) : P (fillRect s rect color) :=
  ((related P).fillRect ⟨rfl, hs⟩ kept.written rect color).2

theorem clear (hs : P s) (color : Color) : P (clear s color) :=
  ((related P).clear ⟨rfl, hs⟩ kept.written color).2

theorem fillBlock (hs : P s) (pos size : Point) (color : Color) :
    P (fillBlock s pos size color).1 := by
  unfold Canvas.fillBlock
  split
  . exact hs
  . apply fillRect kept
    exact hs

theorem outline (hs : P s) (pos size : Point) (color : Color) : P (outline s pos size color).1 := by
  unfold Canvas.outline
  split
  . exact hs
  . apply vline kept
    apply vline kept
    apply hline kept
    apply hline kept
    exact hs

section

variable (copied : ∀ s x y row format, P s → P (copyRow s x y row format))
include copied

omit kept in
theorem rowsWritten (s t : σ) (x y : Nat) (row : ByteArray) (format : PixelFormat) (h : s = t ∧ P s) :
    copyRow s x y row format = copyRow t x y row format ∧ P (copyRow s x y row format) := by
  obtain ⟨rfl, hs⟩ := h
  exact ⟨rfl, copied s x y row format hs⟩

theorem stroke (hs : P s) (mark : Stroke) : P (mark.apply s) :=
  ((related P).stroke ⟨rfl, hs⟩ (rowsWritten copied) kept.written mark).2

omit kept in
theorem copyTo (hs : P s) (fb : FrameBuffer) (target : Point) (area : Rect) :
    P (fb.copyTo s target area) :=
  ((related P).copyTo ⟨rfl, hs⟩ (rowsWritten copied) fb target area).2

theorem drawInto (hs : P s) (w : Window) (offset : Point) (area : Rect) :
    P (w.drawInto s offset area) :=
  ((related P).drawInto ⟨rfl, hs⟩ (rowsWritten copied) kept.written w offset area).2

theorem painting (hs : P s) (painting : Painting) : P (painting.apply s) :=
  ((related P).painting ⟨rfl, hs⟩ (rowsWritten copied) kept.written painting).2

theorem paintings (hs : P s) (paintings : List Painting) : P (Painting.applyAll s paintings) :=
  ((related P).paintings ⟨rfl, hs⟩ (rowsWritten copied) kept.written paintings).2

end

theorem paintDesktop (hs : P s) (background : Color) : P (Chrome.paintDesktop s background) := by
  unfold Chrome.paintDesktop
  apply outline kept
  apply fillBlock kept
  apply fillBlock kept
  apply fillBlock kept
  exact hs

theorem paintFrame (hs : P s) : P (Chrome.paintFrame s) := by
  unfold Chrome.paintFrame
  dsimp only
  iterate 10 apply fillRect kept
  exact hs

theorem paintCursorRow (hs : P s) (p : Point) (i : Nat) (row : List Char) :
    P (Cursor.paintRow.go p s i row) := by
  induction row generalizing s i with
  | nil => exact hs
  | cons cell row ih =>
    apply ih
    apply put kept
    exact hs

theorem paintCursor (hs : P s) (p : Point) : P (Cursor.paint s p) := by
  suffices ∀ (rows : List String) (s : σ) (i : Nat), P s → P (Cursor.paint.go p s i rows) from
    this _ _ _ hs
  intro rows
  induction rows with
  | nil =>
    intro s i hs
    exact hs
  | cons row rows ih =>
    intro s i hs
    apply ih
    apply paintCursorRow kept
    exact hs

end Kept
end Canvas
end Overlay
