import Overlay.Proofs.Surface.Copy
import Overlay.Proofs.Surface.Raster
import Overlay.Proofs.Surface.Screen
import Overlay.Proofs.Window.Agreement
import Overlay.Surface

/-!
This module contains the meaning of presenting a buffer on an output, whichever kind of surface that is.
-/

namespace Overlay

open Readable

def Windows.InSync (windows : Windows) : Prop :=
  ∀ (id : WindowId) (w : Window), windows[id]? = some w → w.InSync

theorem Windows.InSync.modify {windows : Windows} (sync : Windows.InSync windows) (id : WindowId)
    {f : Window → Window} (keeps : ∀ w, Window.InSync w → Window.InSync (f w)) :
    Windows.InSync (windows.modify id f) := by
  intro id' w found
  rw [Array.getElem?_modify] at found
  split at found
  . obtain ⟨w', found', rfl⟩ := Option.map_eq_some_iff.mp found
    exact keeps w' (sync id' w' found')
  . exact sync id' w found

theorem Windows.InSync.push {windows : Windows} (sync : Windows.InSync windows) {w : Window}
    (sync_w : w.InSync) : Windows.InSync (windows.push w) := by
  intro id w' found
  rw [Array.getElem?_push] at found
  split at found
  . cases found
    exact sync_w
  . exact sync id w' found

namespace Surface

def padding? (s : Surface) (i : Nat) : Option UInt8 :=
  match s with
  | .buffer fb => Readable.padding? fb i
  | .screen display => Readable.padding? display i
  | .raster _ | .window _ => none

/-- Whether a surface can keep what is painted on it. Only rasters without cells cannot. -/
def Whole : Surface → Prop
  | .raster grid => grid.cells.size = grid.width * grid.height
  | _ => True

structure Presented (φ : Picture) (s : Surface) (windows : Windows) (s' : Surface)
    (windows' : Windows) : Prop where
  pixel : ∀ p, s'.pixel? windows' p = (s.pixel? windows p).map fun old => (φ p).getD old
  padding : ∀ i, s'.padding? i = s.padding? i
  layout : s'.packedLayout windows' = s.packedLayout windows
  whole : s'.Whole
  kind : ∀ id, s' = .window id ↔ s = .window id
  others : ∀ id, s ≠ .window id → windows'[id]? = windows[id]?
  in_sync : Windows.InSync windows → Windows.InSync windows'

variable {φ : Picture} {windows : Windows}

theorem packed_of_sameShape {σ : Type} [Canvas σ] [Readable σ] {s s' : σ} (h : SameShape s s') :
    Layout.packed (Canvas.width s') (Canvas.height s') (Canvas.format s')
      =
    .packed (Canvas.width s) (Canvas.height s) (Canvas.format s) := by
  rw [h.width, h.height, h.format]

theorem pixel?_window {id : WindowId} {w : Window} (found : windows[id]? = some w) (p : Point) :
    (Surface.window id).pixel? windows p = w.pixel? p := by
  rw [Surface.pixel?, found, Option.bind_some]

theorem packedLayout_window {id : WindowId} {w : Window} (found : windows[id]? = some w) :
    (Surface.window id).packedLayout windows = .packed w.width w.height w.format := by
  rw [packedLayout, inspect, found]
  rfl

theorem packedLayout_hollow {id : WindowId} (missing : windows[id]? = none) :
    (Surface.window id).packedLayout windows = .packed 0 0 default := by
  rw [packedLayout, inspect, missing]
  rfl

theorem exists_window {id : WindowId} (valid : ((Surface.window id).packedLayout windows).Valid) :
    ∃ w, windows[id]? = some w := by
  cases found : windows[id]? with
  | none =>
    rw [packedLayout_hollow found] at valid
    exact absurd valid.width_pos (Nat.lt_irrefl 0)
  | some w => exact ⟨w, rfl⟩

theorem packed_packedLayout (s : Surface) (windows : Windows) :
    .packed (s.packedLayout windows).width (s.packedLayout windows).height
      (s.packedLayout windows).format
      =
    s.packedLayout windows := by
  cases s with
  | window id =>
    cases found : windows[id]? with
    | none =>
      rw [packedLayout_hollow found]
      rfl
    | some w =>
      rw [packedLayout_window found]
      rfl
  | _ => rfl

theorem presented_copyTo {s : Surface} (valid : (s.packedLayout windows).Valid) (whole : s.Whole)
    (back : FrameBuffer) (target : Point) (area : Rect) :
    Presented (back.sent? target area) s windows
      (s.paint windows fun s => back.copyTo s target area).1
      (s.paint windows fun s => back.copyTo s target area).2 := by
  cases s with
  | buffer fb =>
    have painted := FrameBuffer.painted_copyTo (s := fb) trivial back target area
    exact {
      pixel := painted.pixel
      padding := painted.padding
      layout := packed_of_sameShape painted.toSameShape
      whole := trivial
      kind := fun id => ⟨nofun, nofun⟩
      others := fun _ _ => rfl
      in_sync := fun h => h }
  | screen display =>
    have painted := FrameBuffer.painted_copyTo (s := display) trivial back target area
    exact {
      pixel := painted.pixel
      padding := painted.padding
      layout := packed_of_sameShape painted.toSameShape
      whole := trivial
      kind := fun id => ⟨nofun, nofun⟩
      others := fun _ _ => rfl
      in_sync := fun h => h }
  | raster grid =>
    have intact : Intact grid := ⟨whole, valid.width_le, valid.height_le⟩
    have painted := FrameBuffer.painted_copyTo intact back target area
    exact {
      pixel := painted.pixel
      padding := fun _ => rfl
      layout := packed_of_sameShape painted.toSameShape
      whole := painted.intact.1
      kind := fun id => ⟨nofun, nofun⟩
      others := fun _ _ => rfl
      in_sync := fun h => h }
  | window id =>
    obtain ⟨w, found⟩ := exists_window valid
    have painted := FrameBuffer.painted_copyTo (s := w) trivial back target area
    have stored : (windows.modify id fun w => back.copyTo w target area)[id]?
        = some (back.copyTo w target area) := by
      rw [Array.getElem?_modify, if_pos rfl, found]
      rfl
    exact {
      pixel := by
        intro p
        rw [pixel?_window found, ← Window.readable_pixel?, ← painted.pixel, Window.readable_pixel?]
        exact pixel?_window stored p
      padding := fun _ => rfl
      layout := by
        rw [packedLayout_window found]
        exact (packedLayout_window stored).trans (packed_of_sameShape painted.toSameShape)
      whole := trivial
      kind := fun id' => Iff.rfl
      others := by
        intro id' other
        have apart : id ≠ id' := fun h => other (congrArg _ h)
        simp only [paint]
        rw [Array.getElem?_modify, if_neg apart]
      in_sync := by
        intro sync
        apply sync.modify
        intro w sync
        have copied := fun w x y row format sync => Window.inSync_copyRow (w := w) sync x y row format
        exact Canvas.Kept.copyTo copied sync back target area }

theorem inspect_extent {s : Surface} (valid : (s.packedLayout windows).Valid) :
    s.inspect windows Canvas.extent = (s.packedLayout windows).size := by
  cases s with
  | window id =>
    obtain ⟨w, found⟩ := exists_window valid
    rw [packedLayout_window found, inspect, found]
    rfl
  | _ => rfl

theorem isSome_pixel? {s : Surface} (valid : (s.packedLayout windows).Valid) (whole : s.Whole)
    (p : Point) :
    (s.pixel? windows p).isSome = (Rect.ofSize (s.packedLayout windows).size).contains p := by
  rw [← inspect_extent valid]
  cases s with
  | buffer fb => exact LawfulCanvas.isSome_pixel? fb p trivial
  | screen display => exact LawfulCanvas.isSome_pixel? display p trivial
  | raster grid =>
    have intact : Intact grid := ⟨whole, valid.width_le, valid.height_le⟩
    exact LawfulCanvas.isSome_pixel? grid p intact
  | window id =>
    obtain ⟨w, found⟩ := exists_window valid
    rw [pixel?_window found, inspect, found, ← Window.readable_pixel?]
    exact LawfulCanvas.isSome_pixel? w p trivial

theorem getElem?_push {id : WindowId} (valid : ((Surface.window id).packedLayout windows).Valid)
    (w : Window) : (windows.push w)[id]? = windows[id]? := by
  obtain ⟨w', found⟩ := exists_window valid
  have lt : id < windows.size := (Array.getElem?_eq_some_iff.mp found).1
  rw [Array.getElem?_push_lt lt, Array.getElem?_eq_getElem lt]

theorem packedLayout_push {s : Surface} (valid : (s.packedLayout windows).Valid) (w : Window) :
    s.packedLayout (windows.push w) = s.packedLayout windows := by
  cases s with
  | window id => rw [packedLayout, packedLayout, inspect, inspect, getElem?_push valid]
  | _ => rfl

theorem packedLayout_modify {f : Window → Window}
    (keeps : ∀ w, (f w).shadow.layout = w.shadow.layout) (s : Surface) (windows : Windows)
    (id : WindowId) : s.packedLayout (windows.modify id f) = s.packedLayout windows := by
  cases s with
  | window id' =>
    cases found : windows[id']? with
    | none =>
      have missing : (windows.modify id f)[id']? = none := by
        rw [Array.getElem?_modify, found]
        exact ite_self _
      rw [packedLayout_hollow found, packedLayout_hollow missing]
    | some w =>
      have stored : (windows.modify id f)[id']? = if id = id' then some (f w) else some w := by
        rw [Array.getElem?_modify, found]
        rfl
      split at stored
      . rw [packedLayout_window found, packedLayout_window stored, Window.width, Window.height,
          Window.format, keeps]
        rfl
      . rw [packedLayout_window found, packedLayout_window stored]
  | _ => rfl

theorem pixel?_congr {s : Surface} {windows' : Windows}
    (same : ∀ id, s = .window id → windows'[id]? = windows[id]?) (p : Point) :
    s.pixel? windows' p = s.pixel? windows p := by
  cases s with
  | window id => rw [pixel?, pixel?, same id rfl]
  | _ => rfl

theorem pixel?_plain {s : Surface} (plain : ∀ id, s ≠ .window id) (windows windows' : Windows)
    (p : Point) : s.pixel? windows p = s.pixel? windows' p :=
  pixel?_congr (fun id same => absurd same (plain id)) p

theorem inspect_extent_plain {s : Surface} (plain : ∀ id, s ≠ .window id)
    (windows windows' : Windows) : s.inspect windows Canvas.extent = s.inspect windows' Canvas.extent := by
  cases s with
  | window id => exact absurd rfl (plain id)
  | _ => rfl

end Surface
end Overlay
