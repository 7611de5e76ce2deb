import Overlay.Proofs.Guarded.Canvas
import Overlay.Proofs.Surface.Copy
import Overlay.Proofs.Window.Blit

/-!
This module contains copies, moves and drawn windows with a guard before each step that can go wrong. In addition
to those of the shapes there is one for each slice of a storage, each index into it and each run that is moved
within it. No guard ever refuses, whatever the positions, the sizes and the pitches are.
-/

namespace Overlay

instance : Stored FrameBuffer where
  holds fb x y n := decide (fb.layout.offset x y + n * fb.layout.bytesPerPixel ≤ fb.data.size)

instance : Stored Screen where
  holds screen x y n := screen.holds (screen.layout.offset x y) (n * screen.layout.bytesPerPixel)

instance : Stored Window where
  holds w x y n := decide (w.index x y + n ≤ w.pixels.size) && Stored.holds w.shadow x y n

instance : LawfulStored FrameBuffer where
  holds_of_fits _ _ _ _ _ hx hy := decide_eq_true (FrameBuffer.fits hx hy)

instance : LawfulStored Screen where
  holds_of_fits screen _ _ _ _ hx hy := decide_eq_true (screen.valid.offset_fits hx hy)

instance : LawfulStored Window where
  holds_of_fits w x y n _ hx hy := by
    have place : w.index x y + n ≤ w.pixels.size := by
      rw [w.size_pixels]
      exact Grid.strip_fits hx hy
    show (decide _ && Stored.holds w.shadow x y n) = true
    rw [decide_eq_true place, Bool.true_and]
    exact LawfulStored.holds_of_fits w.shadow x y n trivial hx hy

namespace Guarded

def rowBytes (fb : FrameBuffer) (x y count : Nat) : Option ByteArray :=
  let start := fb.layout.offset x y
  if start + count * fb.layout.bytesPerPixel ≤ fb.data.size then some (fb.rowBytes x y count) else none

/-- A row must be made of whole pixels, and must fit the surface as one run and pixel by pixel. -/
def copyRow [Canvas σ] [Stored σ] (s : σ) (x y : Nat) (row : ByteArray) (format : PixelFormat) : Option σ :=
  let n := row.size / format.bytesPerPixel
  if row.size = n * format.bytesPerPixel ∧ Fits s x y n ∧ ∀ i < n, Fits s (x + i) y 1 then
    some (Canvas.copyRow s x y row format)
  else
    none

def copyTo [Canvas σ] [Stored σ] (fb : FrameBuffer) (sink : σ) (target : Point) (area : Rect) : Option σ :=
  match Transfer.clip area fb.bounds target (Canvas.bounds sink) with
  | none => some sink
  | some t =>
    rounds t.rows
      (fun i _ sink => do
        let columns ← index? t.source.size.x.val
        let x ← index? t.source.pos.x.val
        let y ← index? (t.source.pos.y.val + i)
        let bytes ← rowBytes fb x y columns
        let x ← index? t.target.x.val
        let y ← index? (t.target.y.val + i)
        copyRow sink x y bytes fb.layout.format)
      sink

def moveAll (t : Transfer) (move : (sourceX sourceY targetX targetY count : Nat) → α → Option α) (s : α) :
    Option α := do
  let columns ← index? t.source.size.x.val
  let rows ← index? t.source.size.y.val
  let sourceX ← index? t.source.pos.x.val
  let sourceY ← index? t.source.pos.y.val
  let targetX ← index? t.target.x.val
  let targetY ← index? t.target.y.val
  rounds rows
    (fun i _ s => move sourceX (sourceY + t.rowOrder i) targetX (targetY + t.rowOrder i) columns s) s

def readBuffer (fb : FrameBuffer) (p : Point) : Option (Option Color) :=
  if fb.bounds.contains p then do
    let x ← index? p.x.val
    let y ← index? p.y.val
    let bytes ← rowBytes fb x y 1
    some (some (fb.layout.format.decode bytes))
  else
    some none

def readWindow (w : Window) (p : Point) : Option (Option Color) :=
  if w.bounds.contains p then do
    let x ← index? p.x.val
    let y ← index? p.y.val
    let color ← w.pixels[w.index x y]?
    some (some color)
  else
    some none

def moveBytes (sourceX sourceY targetX targetY count : Nat) (fb : FrameBuffer) : Option FrameBuffer :=
  let length := count * fb.layout.bytesPerPixel
  if fb.layout.offset sourceX sourceY + length ≤ fb.data.size
      ∧ fb.layout.offset targetX targetY + length ≤ fb.data.size then
    some (fb.moveRun sourceX sourceY targetX targetY count)
  else
    none

def moveBuffer (fb : FrameBuffer) (target : Point) (area : Rect) : Option FrameBuffer :=
  match Transfer.clip area fb.bounds target fb.bounds with
  | none => some fb
  | some t => moveAll t moveBytes fb

def moveColors (width sourceX sourceY targetX targetY count : Nat) (pixels : Array Color) :
    Option (Array Color) :=
  let source := sourceY * width + sourceX
  let target := targetY * width + targetX
  if source + count ≤ pixels.size ∧ target + count ≤ pixels.size then
    some (Window.moveRun pixels source target count)
  else
    none

def moveWindow (w : Window) (target : Point) (area : Rect) : Option Window :=
  match Transfer.clip area w.bounds target w.bounds with
  | none => some w
  | some t => do
    let pixels ← moveAll t (moveColors w.width) w.pixels
    let shadow ← moveBuffer w.shadow target area
    if same : shadow.layout = w.shadow.layout ∧ pixels.size = w.pixels.size then
      some { w with
        shadow := shadow
        pixels := pixels
        shadow_packed := by rw [same.1, w.shadow_packed]
        size_pixels := by rw [same.1, same.2, w.size_pixels] }
    else
      none

def scrollUp (w : Window) (rows : Coord) (fill : Color) : Option Window :=
  let size := w.size
  if rows ≤ 0 then
    some w
  else if size.y ≤ rows then
    clear w fill
  else do
    let rest ← Coord.ofInt? (size.y.val - rows.val)
    let w ← moveWindow w .origin ⟨⟨0, rows⟩, ⟨size.x, rest⟩⟩
    fillRect w ⟨⟨0, rest⟩, ⟨size.x, rows⟩⟩ fill

def drawInto [Canvas σ] [Stored σ] (w : Window) (sink : σ) (offset : Point) (area : Rect) : Option σ :=
  let clip := ((Rect.mk offset w.size).inter area).inter (Canvas.bounds sink)
  if clip.isEmpty then
    some sink
  else
    match w.key with
    | none => copyTo w.shadow sink clip.pos (clip.shift (-offset))
    | some key =>
      rounds (clip.bottom.val - clip.pos.y.val).toNat
        (fun i _ sink => do
          let y := clip.pos.y.val + i
          let v ← index? (y - offset.y.val)
          rounds (clip.right.val - clip.pos.x.val).toNat
            (fun j _ sink => do
              let x := clip.pos.x.val + j
              let u ← index? (x - offset.x.val)
              let color ← w.pixels[w.index u v]?
              if color = key then
                some sink
              else do
                let column ← index? x
                let row ← index? y
                writePixel sink column row color)
            sink)
        sink

open Readable

theorem rowBytes_eq {fb : FrameBuffer} {x y n : Nat} (hx : x + n ≤ fb.layout.width)
    (hy : y < fb.layout.height) : rowBytes fb x y n = some (fb.rowBytes x y n) :=
  if_pos (FrameBuffer.fits hx hy)

theorem readBuffer_eq (fb : FrameBuffer) (p : Point) : readBuffer fb p = some (fb.pixel? p) := by
  unfold readBuffer FrameBuffer.pixel?
  split
  . next seen =>
    obtain ⟨⟨left, right⟩, top, bottom⟩ := fb.valid.contains_size.mp seen
    have row : rowBytes fb p.x.toNat p.y.toNat 1 = some (fb.rowBytes p.x.toNat p.y.toNat 1) := by
      apply rowBytes_eq
      . rw [Coord.toNat]
        omega
      . rw [Coord.toNat]
        omega
    have color : fb.layout.format.decodeAt (fb.rowBytes p.x.toNat p.y.toNat 1)
        (0 * fb.layout.format.bytesPerPixel) = _ := FrameBuffer.decodeAt_rowBytes Nat.one_pos
    rw [Nat.zero_mul, Nat.add_zero] at color
    rw [bind_of_eq_some (index?_val left), bind_of_eq_some (index?_val top), bind_of_eq_some row,
      PixelFormat.decode, color]
  . rfl

theorem exists_stored {w : Window} {u v : Int} (hu : 0 ≤ u ∧ u < w.width) (hv : 0 ≤ v ∧ v < w.height) :
    ∃ color, w.pixels[w.index u.toNat v.toNat]? = some color := by
  have size : w.pixels.size = w.width * w.height := w.size_pixels
  have lt : w.index u.toNat v.toNat < w.pixels.size := by
    rw [size]
    exact Grid.index_lt (by omega) (by omega)
  exact ⟨_, Array.getElem?_eq_getElem lt⟩

theorem readWindow_eq (w : Window) (p : Point) : readWindow w p = some (w.pixel? p) := by
  unfold readWindow Window.pixel?
  split
  . next seen =>
    have inside := Window.contains_bounds.mp seen
    obtain ⟨color, stored⟩ := exists_stored inside.1 inside.2
    have here : w.pixels[w.index p.x.toNat p.y.toNat]? = some color := stored
    rw [bind_of_eq_some (index?_val inside.1.1), bind_of_eq_some (index?_val inside.2.1),
      bind_of_eq_some here, here]
  . rfl

section

variable {area : Rect} {sourceSize target targetSize : Point} {t : Transfer}

theorem moveAll_eq {α : Type} {I : α → Prop}
    {move : (sourceX sourceY targetX targetY count : Nat) → α → Option α}
    {f : (sourceX sourceY targetX targetY count : Nat) → α → α} {s : α}
    (clipped : t.Clipped area sourceSize target targetSize) (start : I s)
    (step : ∀ sx sy tx ty n s, I s →
      sx + n ≤ sourceSize.x.toNat → sy < sourceSize.y.toNat →
      tx + n ≤ targetSize.x.toNat → ty < targetSize.y.toNat →
      move sx sy tx ty n s = some (f sx sy tx ty n s) ∧ I (f sx sy tx ty n s)) :
    moveAll t move s
      =
    some (Nat.fold t.rows
      (fun i _ s => f t.source.pos.x.toNat (t.source.pos.y.toNat + t.rowOrder i) t.target.x.toNat
        (t.target.y.toNat + t.rowOrder i) t.columns s) s) := by
  have columns := clipped.columns_fit
  have rows := clipped.rows_fit
  have moved (i : Nat) (hi : i < t.rows) (s : α) (hs : I s) := by
    have row_lt := Transfer.rowOrder_lt hi
    exact step t.source.pos.x.toNat (t.source.pos.y.toNat + t.rowOrder i) t.target.x.toNat
      (t.target.y.toNat + t.rowOrder i) t.columns s hs columns.1 (by omega) columns.2 (by omega)
  unfold moveAll
  rw [bind_of_eq_some (index?_val (Int.le_of_lt clipped.x.extent_pos)),
    bind_of_eq_some (index?_val (Int.le_of_lt clipped.y.extent_pos)),
    bind_of_eq_some (index?_val clipped.x.source_fits.1), bind_of_eq_some (index?_val clipped.y.source_fits.1),
    bind_of_eq_some (index?_val clipped.x.target_fits.1), bind_of_eq_some (index?_val clipped.y.target_fits.1)]
  exact (rounds_eq (I := I) start moved).1

end

theorem moveBuffer_eq (fb : FrameBuffer) (target : Point) (area : Rect) :
    moveBuffer fb target area = some (fb.moveRect target area) := by
  unfold moveBuffer FrameBuffer.moveRect
  cases clip : Transfer.clip area fb.bounds target fb.bounds with
  | none => rfl
  | some t =>
    have clipped : t.Clipped area fb.layout.size target fb.layout.size := Transfer.clipped_of_clip clip
    apply moveAll_eq (I := fun other : FrameBuffer => other.layout = fb.layout)
      (f := fun sx sy tx ty n (fb : FrameBuffer) => fb.moveRun sx sy tx ty n) clipped
    . rfl
    . intro sx sy tx ty n other layout hsx hsy htx hty
      rw [fb.valid.toNat_size_x, ← layout] at hsx htx
      rw [fb.valid.toNat_size_y, ← layout] at hsy hty
      constructor
      . exact if_pos ⟨FrameBuffer.fits hsx hsy, FrameBuffer.fits htx hty⟩
      . rw [FrameBuffer.layout_moveRun, layout]

theorem moveColors_eq {width height sx sy tx ty n : Nat} {pixels : Array Color}
    (size : pixels.size = width * height) (hsx : sx + n ≤ width) (hsy : sy < height) (htx : tx + n ≤ width)
    (hty : ty < height) :
    moveColors width sx sy tx ty n pixels
      =
    some (Window.moveRun pixels (sy * width + sx) (ty * width + tx) n) := by
  unfold moveColors
  rw [size]
  exact if_pos ⟨Grid.strip_fits hsx hsy, Grid.strip_fits htx hty⟩

theorem moveWindow_eq (w : Window) (target : Point) (area : Rect) :
    moveWindow w target area = some (w.moveRect target area) := by
  unfold moveWindow Window.moveRect
  cases clip : Transfer.clip area w.bounds target w.bounds with
  | none => rfl
  | some t =>
    have clipped : t.Clipped area w.size target w.size := Transfer.clipped_of_clip clip
    have pixels : moveAll t (moveColors w.width) w.pixels = some (Window.moveRows w.pixels w.width t) := by
      apply moveAll_eq (I := fun pixels : Array Color => pixels.size = w.width * w.height)
        (f := fun sx sy tx ty n pixels =>
          Window.moveRun pixels (sy * w.width + sx) (ty * w.width + tx) n) clipped
      . exact w.size_pixels
      . intro sx sy tx ty n pixels size hsx hsy htx hty
        rw [w.toNat_size_x] at hsx htx
        rw [w.toNat_size_y] at hsy hty
        exact ⟨moveColors_eq size hsx hsy htx hty, (Window.size_moveRun ..).trans size⟩
    have same : (w.shadow.moveRect target area).layout = w.shadow.layout
        ∧ (Window.moveRows w.pixels w.width t).size = w.pixels.size :=
      ⟨FrameBuffer.layout_moveRect .., Window.size_moveRows ..⟩
    dsimp only
    rw [bind_of_eq_some pixels, bind_of_eq_some (moveBuffer_eq ..), dif_pos same]
    rfl

theorem scrollUp_eq (w : Window) (rows : Coord) (fill : Color) :
    scrollUp w rows fill = some (w.scrollUp rows fill) := by
  unfold scrollUp Window.scrollUp
  dsimp only
  split
  . rfl
  . next down =>
    split
    . exact fillRect_eq trivial ..
    . next short =>
      have rest : (w.size.y - rows).val = w.size.y.val - rows.val := by
        have := w.size.y.le_greatest
        rw [Coord.le_def, Coord.val_zero] at down
        rw [Coord.le_def] at short
        rw [Coord.val_sub]
        omega
      rw [bind_of_eq_some (ofInt?_val rest), bind_of_eq_some (moveWindow_eq ..)]
      exact fillRect_eq trivial ..

section

variable {σ : Type} [Canvas σ] [LawfulCanvas σ] [Stored σ] [LawfulStored σ] {sink : σ} (hs : Intact sink)
include hs

theorem copyRow_eq {x y n : Nat} {row : ByteArray} {format : PixelFormat} (hx : x + n ≤ Canvas.width sink)
    (hy : y < Canvas.height sink) (hn : row.size = n * format.bytesPerPixel) :
    copyRow sink x y row format = some (Canvas.copyRow sink x y row format) := by
  have count : row.size / format.bytesPerPixel = n := by
    rw [hn, Nat.mul_div_cancel _ format.bytesPerPixel_pos]
  unfold copyRow
  dsimp only
  rw [count]
  apply if_pos
  refine ⟨hn, fits hs hx hy, ?_⟩
  intro i hi
  exact fits hs (by omega) hy

theorem copyTo_eq (fb : FrameBuffer) (target : Point) (area : Rect) :
    copyTo fb sink target area = some (fb.copyTo sink target area) := by
  unfold copyTo FrameBuffer.copyTo
  cases clip : Transfer.clip area fb.bounds target (Canvas.bounds sink) with
  | none => rfl
  | some t =>
    have clipped : t.Clipped area fb.layout.size target (Canvas.extent sink) := Transfer.clipped_of_clip clip
    obtain ⟨source_columns, target_columns⟩ := clipped.columns_fit
    obtain ⟨source_rows, target_rows⟩ := clipped.rows_fit
    rw [fb.valid.toNat_size_x] at source_columns
    rw [fb.valid.toNat_size_y] at source_rows
    rw [Canvas.toNat_extent_x hs] at target_columns
    rw [Canvas.toNat_extent_y hs] at target_rows
    have height_le : fb.layout.height ≤ 8192 := fb.valid.height_le
    have sink_height_le := PlainCanvas.height_le sink hs
    have columns : index? t.source.size.x.val = some t.columns := index?_val (Int.le_of_lt clipped.x.extent_pos)
    apply rounds_keep hs
    intro i hi s shape
    have source_y := index?_add (i := i) clipped.y.source_fits.1 (by omega)
    have target_y := index?_add (i := i) clipped.y.target_fits.1 (by omega)
    have source_row : t.source.pos.y.toNat + i < fb.layout.height := by omega
    rw [bind_of_eq_some columns, bind_of_eq_some (index?_val clipped.x.source_fits.1),
      bind_of_eq_some source_y, bind_of_eq_some (rowBytes_eq source_columns source_row),
      bind_of_eq_some (index?_val clipped.x.target_fits.1), bind_of_eq_some target_y]
    constructor
    . apply copyRow_eq shape.intact
      . rw [shape.width]
        exact target_columns
      . rw [shape.height]
        omega
      . exact FrameBuffer.size_rowBytes source_columns source_row
    . exact shape.trans (LawfulCanvas.shape_copyRow _ _ _ _ _ shape.intact)

omit [Stored σ] [LawfulStored σ] in
theorem on_both {w : Window} {offset : Point} {area r : Rect} (hr : w.clip sink offset area = r)
    (proper : r.isEmpty = false) {x y : Int} (hx : r.pos.x.val ≤ x ∧ x < r.right.val)
    (hy : r.pos.y.val ≤ y ∧ y < r.bottom.val) :
    ((0 ≤ x ∧ x < Canvas.width sink) ∧ 0 ≤ y ∧ y < Canvas.height sink)
      ∧ (0 ≤ x - offset.x.val ∧ x - offset.x.val < w.width)
      ∧ 0 ≤ y - offset.y.val ∧ y - offset.y.val < w.height := by
  obtain ⟨⟨left, right⟩, top, bottom⟩ := Window.clip_fits hs hr proper
  obtain ⟨width_pos, height_pos⟩ := Rect.isEmpty_eq_false.mp proper
  have right_le : r.right.val ≤ r.pos.x.val + r.size.x.val := by
    rw [Rect.right, Coord.val_add]
    omega
  have bottom_le : r.bottom.val ≤ r.pos.y.val + r.size.y.val := by
    rw [Rect.bottom, Coord.val_add]
    omega
  obtain ⟨x, rfl⟩ := Int.eq_ofNat_of_zero_le (show 0 ≤ x by omega)
  obtain ⟨y, rfl⟩ := Int.eq_ofNat_of_zero_le (show 0 ≤ y by omega)
  have covered : r.Covers x y := ⟨hx.1, by omega, hy.1, by omega⟩
  have in_window := ((Window.covers_clip hs hr (by omega) (by omega)).mp covered).1
  rw [Rect.covers_mk, Window.val_size_x, Window.val_size_y] at in_window
  omega

theorem drawInto_eq (w : Window) (offset : Point) (area : Rect) :
    drawInto w sink offset area = some (w.drawInto sink offset area) := by
  obtain ⟨r, hr⟩ : ∃ r, w.clip sink offset area = r := ⟨_, rfl⟩
  have unfolded : ((Rect.mk offset w.size).inter area).inter (Canvas.bounds sink) = r := hr
  unfold drawInto Window.drawInto
  rw [unfolded]
  dsimp only
  split
  . rfl
  . next proper =>
    rw [Bool.not_eq_true] at proper
    cases keyed : w.key with
    | none => exact copyTo_eq hs ..
    | some key =>
      have width_le : w.width ≤ 8192 := w.shadow.valid.width_le
      have height_le : w.height ≤ 8192 := w.shadow.valid.height_le
      have sink_width_le := PlainCanvas.width_le sink hs
      have sink_height_le := PlainCanvas.height_le sink hs
      have left_lt : r.pos.x.val < r.right.val := by
        have := (Rect.isEmpty_eq_false.mp proper).1
        have := (Window.clip_fits hs hr proper).1
        rw [Rect.right, Coord.val_add]
        omega
      dsimp only
      apply rounds_keep hs
      intro i hi s shape
      have row : r.pos.y.val ≤ r.pos.y.val + i ∧ r.pos.y.val + i < r.bottom.val := by omega
      have v : index? (r.pos.y.val + i - offset.y.val) = some (r.pos.y.val + i - offset.y.val).toNat := by
        obtain ⟨_, _, in_y⟩ := on_both hs hr proper ⟨Int.le_refl _, left_lt⟩ row
        exact index?_of_fits (by omega) (by omega)
      rw [bind_of_eq_some v]
      apply rounds_eq (I := SameShape sink) shape
      intro j hj s shape
      obtain ⟨⟨on_x, on_y⟩, in_x, in_y⟩ :=
        on_both hs hr proper (x := r.pos.x.val + j) ⟨by omega, by omega⟩ row
      obtain ⟨color, stored⟩ := exists_stored in_x in_y
      rw [bind_of_eq_some (index?_of_fits in_x.1 (by omega)), bind_of_eq_some stored, stored]
      dsimp only
      split
      . exact ⟨rfl, shape⟩
      . rw [bind_of_eq_some (index?_of_fits on_x.1 (by omega)),
          bind_of_eq_some (index?_of_fits on_y.1 (by omega))]
        exact written shape (by omega) (by omega) _

end

structure Unrefused {σ : Type} [Canvas σ] [Stored σ] (s : σ) : Prop where
  stored : ∀ x y n, x + n ≤ Canvas.width s → y < Canvas.height s → Stored.holds s x y n = true
  row : ∀ x y n row (format : PixelFormat), x + n ≤ Canvas.width s → y < Canvas.height s →
    row.size = n * format.bytesPerPixel → copyRow s x y row format = some (Canvas.copyRow s x y row format)
  put : ∀ p color, put s p color = some (Canvas.put s p color)
  span : ∀ y x0 x1 color, fillRowSpan s y x0 x1 color = some (Canvas.fillRowSpan s y x0 x1 color)
  hline : ∀ x0 x1 y color, hline s x0 x1 y color = some (Canvas.hline s x0 x1 y color)
  vline : ∀ x y0 y1 color, vline s x y0 y1 color = some (Canvas.vline s x y0 y1 color)
  rect : ∀ area color, fillRect s area color = some (Canvas.fillRect s area color)
  clear : ∀ color, clear s color = some (Canvas.clear s color)
  outline : ∀ pos size color, outline s pos size color = some (Canvas.outline s pos size color)
  copy : ∀ fb target area, copyTo fb s target area = some (fb.copyTo s target area)
  draw : ∀ w offset area, drawInto w s offset area = some (w.drawInto s offset area)

theorem unrefused {σ : Type} [Canvas σ] [LawfulCanvas σ] [Stored σ] [LawfulStored σ] {s : σ} (hs : Intact s) :
    Unrefused s where
  stored x y n := LawfulStored.holds_of_fits s x y n hs
  row _ _ _ _ _ hx hy hn := copyRow_eq hs hx hy hn
  put := put_eq hs
  span := fillRowSpan_eq hs
  hline := hline_eq hs
  vline := vline_eq hs
  rect := fillRect_eq hs
  clear := fillRect_eq hs (Canvas.bounds s)
  outline := outline_eq hs
  copy := copyTo_eq hs
  draw := drawInto_eq hs

theorem drawing_never_refused :
    (∀ fb : FrameBuffer, Unrefused fb
        ∧ (∀ p, readBuffer fb p = some (fb.pixel? p))
        ∧ ∀ target area, moveBuffer fb target area = some (fb.moveRect target area))
      ∧ (∀ w : Window, Unrefused w
        ∧ (∀ p, readWindow w p = some (w.pixel? p))
        ∧ (∀ target area, moveWindow w target area = some (w.moveRect target area))
        ∧ ∀ rows fill, scrollUp w rows fill = some (w.scrollUp rows fill))
      ∧ ∀ screen : Screen, Unrefused screen := by
  refine ⟨?_, ?_, ?_⟩
  . intro fb
    exact ⟨unrefused trivial, readBuffer_eq fb, moveBuffer_eq fb⟩
  . intro w
    exact ⟨unrefused trivial, readWindow_eq w, moveWindow_eq w, scrollUp_eq w⟩
  . intro screen
    exact unrefused trivial

end Guarded
end Overlay
