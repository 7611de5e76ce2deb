import Overlay.Proofs.Canvas.Outline
import Overlay.Proofs.Surface.FrameBuffer
import Overlay.Proofs.Surface.Raster
import Overlay.Proofs.Surface.Screen
import Overlay.Proofs.Surface.Window

/-!
This module contains what the shapes paint on frame buffers, screens and windows, and the border of a block on
surfaces that are as large as the coordinates allow.
-/

namespace Overlay

open Readable

namespace Canvas

theorem shapes_exact (color : Color) :
    (∀ fb : FrameBuffer, PaintsShapes fb color)
      ∧ (∀ screen : Screen, PaintsShapes screen color)
      ∧ ∀ w : Window, PaintsShapes w color :=
  ⟨fun _ => paintsShapes trivial color, fun _ => paintsShapes trivial color,
    fun _ => paintsShapes trivial color⟩

/-- The border of a block is drawn just where it lies on the surface, however far the block reaches, and what
is reported is the block as far as it lies on the surface. -/
theorem outline_exact {σ : Type} [Canvas σ] [Readable σ] [PlainCanvas σ] {s : σ} (hs : Intact s)
    (pos size : Point) (color : Color) : Outlined s pos size color (outline s pos size color) where
  painted := painted_outline hs color pos size
  clipped := by
    intro r reported
    rw [snd_outline hs] at reported
    exact covers_visible? hs reported
  missed := by
    rw [snd_outline hs, visible?_eq_none]
    apply forall_congr'
    intro p
    rw [not_and']
    apply imp_congr_right
    intro inside
    rw [contains_iff_covers hs inside]
  encloses := by
    rintro p seen ⟨covers, _⟩
    rw [PlainCanvas.isSome_pixel? s p hs] at seen
    rw [← contains_iff_covers hs seen] at covers
    rw [snd_outline hs]
    cases visible : visible? s ⟨pos, size⟩ with
    | none => exact absurd ⟨covers, seen⟩ (visible?_eq_none.mp visible p)
    | some r => exact ⟨r, rfl, (contains_visible? visible).mpr ⟨covers, seen⟩⟩

theorem outline_exact_widest :
    let raster := Raster.black 2147483647 3 .rgb888
    let pos : Point := ⟨2147483640, 0⟩
    let size : Point := ⟨2147483647, 3⟩
    let result := outline raster pos size .white
    @Outlined Raster _ Raster.unlimited raster pos size .white result
      ∧ ¬Border pos size ⟨2147483646, 1⟩
      ∧ result.1.pixel? ⟨2147483646, 1⟩ = raster.pixel? ⟨2147483646, 1⟩ := by
  intro raster pos size result
  let _ : Readable Raster := Raster.unlimited
  have := Raster.plain_unlimited
  have full : raster.Full := ⟨Array.size_replicate, Nat.le_refl _, by decide⟩
  have outlined := outline_exact (s := raster) full pos size .white
  have off : ¬Border pos size ⟨2147483646, 1⟩ := by decide
  refine ⟨outlined, off, ?_⟩
  have kept := outlined.painted.pixel ⟨2147483646, 1⟩
  rw [Picture.fill, if_neg off] at kept
  exact kept.trans Option.map_id'

end Canvas
end Overlay
