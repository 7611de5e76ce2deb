import Overlay.Proofs.Canvas.Kept
import Overlay.Proofs.Surface.Screen

/-!
This module contains the memory of the physical screen next to that of a frame buffer in the same layout.
Whatever is painted on both, their bytes are the same, also those that no pixel has.
-/

namespace Overlay
namespace Screen

theorem related_toBuffer : Canvas.Related fun (screen : Screen) fb => screen.toBuffer = fb where
  width same := congrArg Canvas.width same
  height same := congrArg Canvas.height same

theorem toBuffer_paintings (screen : Screen) (paintings : List Painting) :
    (Painting.applyAll screen paintings).toBuffer = Painting.applyAll screen.toBuffer paintings := by
  apply related_toBuffer.paintings
  . rfl
  . rintro screen _ x y row format rfl
    exact toBuffer_copyRow screen x y row format
  . rintro screen _ x y color rfl
    exact toBuffer_writePixel screen x y color

variable {layout : Layout} {log log' : Log.Logger} {mapped : Bool} {screen : Screen}

theorem toBuffer_ofLayout (made : ofLayout log mapped layout = .ok (screen, log')) :
    FrameBuffer.ofLayout? layout = .ok screen.toBuffer ∧ screen.layout = layout := by
  unfold ofLayout at made
  split at made
  . cases made
  . split at made
    . next accepted =>
      split at made
      . cases made
        rw [FrameBuffer.ofLayout?, dif_pos accepted.1]
        exact ⟨rfl, rfl⟩
      . cases made
    . cases made

theorem exists_ofLayout (valid : layout.Valid) (wide : minWidth ≤ layout.width)
    (tall : minHeight ≤ layout.height) (small : layout.byteSize ≤ maxBytes) (log : Log.Logger) :
    ∃ screen log', ofLayout log true layout = .ok (screen, log') := by
  unfold ofLayout
  rw [if_neg (by decide), dif_pos ⟨valid, wide, tall⟩, if_pos small]
  exact ⟨_, _, rfl⟩

end Screen

/-- How a surface with memory of a given layout stores pixels and rows: a run of bytes that would cross
the end of the memory is dropped. A row in another format is stored pixel by pixel, so that only its end
is dropped. -/
structure Canvas.Stores {σ : Type} [Canvas σ] (layout : Layout) (memory : σ → ByteArray) (s : σ) :
    Prop where
  pixel : ∀ x y color, Storage.bytes (memory (writePixel s x y color))
    =
    if layout.offset x y + layout.bytesPerPixel ≤ layout.byteSize then
      splice (Storage.bytes (memory s)) (layout.offset x y) (layout.format.encode color)
    else
      Storage.bytes (memory s)
  row : ∀ x y row, Storage.bytes (memory (copyRow s x y row layout.format))
    =
    if layout.offset x y + row.size ≤ layout.byteSize then
      splice (Storage.bytes (memory s)) (layout.offset x y) (Storage.bytes row)
    else
      Storage.bytes (memory s)
  decoded : ∀ x y row format, format ≠ layout.format →
    copyRow s x y row format = copyPixels (fun s x color => writePixel s x y color) s x row format
  cut : ∀ x y row format n, format ≠ layout.format →
    layout.byteSize < layout.offset (x + n) y + layout.bytesPerPixel →
    copyRow s x y row format = copyRow s x y (row.extract 0 (n * format.bytesPerPixel)) format

theorem copyPixels_extract {σ : Type} {write : σ → Nat → Color → σ} {I : σ → Prop} {s : σ} {x n : Nat}
    (start : I s) (kept : ∀ s x color, I s → I (write s x color))
    (dropped : ∀ s i color, I s → n ≤ i → write s (x + i) color = s) (row : ByteArray)
    (format : PixelFormat) :
    copyPixels write s x row format
      =
    copyPixels write s x (row.extract 0 (n * format.bytesPerPixel)) format := by
  unfold copyPixels
  rw [format.size_extract_div]
  obtain ⟨rest, whole⟩ := Nat.exists_eq_add_of_le (Nat.min_le_right n (row.size / format.bytesPerPixel))
  generalize hm : min n (row.size / format.bytesPerPixel) = m at *
  rw [whole, Nat.fold_add]
  have front : m.fold
      (fun i _ s => write s (x + i) (format.decodeAt row (i * format.bytesPerPixel))) s
      = m.fold (fun i _ s => write s (x + i) (format.decodeAt
        (row.extract 0 (n * format.bytesPerPixel)) (i * format.bytesPerPixel))) s := by
    apply Loop.congr (I := I)
    . exact start
    . intro i _ s hs
      exact kept s _ _ hs
    . intro i h s _
      rw [format.decodeAt_extract row (by omega)]
  have stored : I (m.fold
      (fun i _ s => write s (x + i) (format.decodeAt row (i * format.bytesPerPixel))) s) := by
    apply Loop.invariant
    . exact start
    . intro i _ s hs
      exact kept s _ _ hs
  rw [← front]
  generalize m.fold (fun i _ s => write s (x + i) (format.decodeAt row (i * format.bytesPerPixel))) s
    = t at *
  apply Loop.invariant (motive := fun t' => t' = t)
  . rfl
  . intro i h t' same
    rw [same]
    exact dropped t _ _ stored (by omega)

namespace FrameBuffer

theorem writePixel_dropped {fb : FrameBuffer} {x y : Nat}
    (past : fb.layout.byteSize < fb.layout.offset x y + fb.layout.bytesPerPixel) (color : Color) :
    fb.writePixel x y color = fb := by
  rw [writePixel]
  dsimp only
  rw [if_neg]
  rw [fb.size_data]
  exact Nat.not_le.mpr past

theorem stores (fb : FrameBuffer) : Canvas.Stores fb.layout data fb where
  pixel x y color := by
    show Storage.bytes (fb.writePixel x y color).data = _
    rw [← fb.size_data]
    split
    . next fits => exact bytes_writePixel fits color
    . next past =>
      rw [writePixel_dropped]
      rw [← fb.size_data]
      exact Nat.lt_of_not_le past
  row x y row := by
    show Storage.bytes (fb.copyRow x y row fb.layout.format).data = _
    rw [← fb.size_data]
    split
    . next fits => exact bytes_copyRow fits
    . next past =>
      unfold copyRow
      dsimp only
      rw [if_pos rfl, data_mapData, Storage.overwrite, if_neg past]
  decoded x y row format other := by
    show fb.copyRow x y row format = _
    rw [copyRow, if_neg other]
    rfl
  cut x y row format n other past := by
    show fb.copyRow x y row format = fb.copyRow x y (row.extract 0 (n * format.bytesPerPixel)) format
    unfold copyRow
    rw [if_neg other, if_neg other]
    apply copyPixels_extract (I := fun fb' => fb'.layout = fb.layout)
    . rfl
    . intro fb' x' color same
      rw [layout_writePixel, same]
    . intro fb' i color same later
      apply writePixel_dropped
      rw [same]
      apply Nat.lt_of_lt_of_le past
      apply Nat.add_le_add_right
      apply Nat.add_le_add_left
      apply Nat.mul_le_mul_right
      exact Nat.add_le_add_left later x

theorem layout_paintings (fb : FrameBuffer) (paintings : List Painting) :
    (Painting.applyAll fb paintings).layout = fb.layout := by
  have kept : Canvas.Kept fun other : FrameBuffer => other.layout = fb.layout := by
    intro other x y color same
    exact (layout_writePixel other x y color).trans same
  apply kept.paintings
  . intro other x y row format same
    exact (layout_copyRow other x y row format).trans same
  . rfl

theorem layout_painting (fb : FrameBuffer) (painting : Painting) : (painting.apply fb).layout = fb.layout :=
  fb.layout_paintings [painting]

end FrameBuffer

namespace Screen

variable {layout : Layout} {log log' : Log.Logger} {mapped : Bool} {screen : Screen}

theorem stores (screen : Screen) : Canvas.Stores screen.layout memory screen where
  pixel x y color := by
    show Storage.bytes (screen.writePixel x y color).toBuffer.data = _
    rw [toBuffer_writePixel]
    exact screen.toBuffer.stores.pixel x y color
  row x y row := by
    show Storage.bytes (screen.copyRow x y row screen.layout.format).toBuffer.data = _
    rw [toBuffer_copyRow]
    exact screen.toBuffer.stores.row x y row
  decoded x y row format other := by
    show screen.copyRow x y row format = _
    rw [copyRow, if_pos other]
    rfl
  cut x y row format n other past := by
    apply toBuffer_inj
    have cut := screen.toBuffer.stores.cut x y row format n other past
    exact (toBuffer_copyRow ..).trans (cut.trans (toBuffer_copyRow ..).symm)

/-- For each layout that a screen can have there is a frame buffer too, and after every painting of both
the bytes are the same, row padding included. Both store what fits the memory, and drop what would cross
its end. -/
theorem memory_eq_data (made : ofLayout log mapped layout = .ok (screen, log')) :
    ∃ fb, FrameBuffer.ofLayout? layout = .ok fb ∧ ∀ paintings,
      let a := Painting.applyAll screen paintings
      let b := Painting.applyAll fb paintings
      (a.layout = layout ∧ b.layout = layout) ∧ a.memory = b.data
        ∧ Canvas.Stores layout memory a ∧ Canvas.Stores layout FrameBuffer.data b := by
  obtain ⟨buffer, same⟩ := toBuffer_ofLayout made
  refine ⟨screen.toBuffer, buffer, ?_⟩
  intro paintings
  have carried := toBuffer_paintings screen paintings
  have kept := (screen.toBuffer.layout_paintings paintings).trans same
  have kept' := (congrArg FrameBuffer.layout carried).trans kept
  have stores := (Painting.applyAll screen paintings).stores
  have stores' := (Painting.applyAll screen.toBuffer paintings).stores
  rw [layout_toBuffer] at kept'
  rw [kept'] at stores
  rw [kept] at stores'
  exact ⟨⟨kept', kept⟩, congrArg FrameBuffer.data carried, stores, stores'⟩

theorem memory_eq_data_clipped :
    let layout : Layout := ⟨320, 240, 1000, .rgb888⟩
    let source : FrameBuffer :=
      ⟨⟨4, 3, 20, .bgrx8888⟩, Storage.zeros 60, by decide, Storage.size_zeros 60⟩
    let paintings : List Painting :=
      [.stroke (.clear .white), .stroke (.pixel 333 239 .black), .copy source ⟨318, -1⟩ ⟨⟨0, 0⟩, ⟨4, 3⟩⟩]
    ∃ screen log' fb, ofLayout .fresh true layout = .ok (screen, log')
      ∧ FrameBuffer.ofLayout? layout = .ok fb
      ∧ let a := Painting.applyAll screen paintings
        let b := Painting.applyAll fb paintings
        (a.layout = layout ∧ b.layout = layout) ∧ a.memory = b.data
          ∧ Canvas.Stores layout memory a ∧ Canvas.Stores layout FrameBuffer.data b := by
  intro layout source paintings
  have valid : Layout.Valid ⟨320, 240, 1000, .rgb888⟩ := by decide
  obtain ⟨screen, log', made⟩ :=
    exists_ofLayout valid (by decide) (by decide) (by decide) .fresh
  obtain ⟨fb, buffer, same⟩ := memory_eq_data made
  exact ⟨screen, log', fb, made, buffer, same paintings⟩

end Screen
end Overlay
