import Overlay.Proofs.Compositor.DoubleBuffer
import Overlay.Proofs.Compositor.Place
import Overlay.Proofs.Surface.Memory

/-!
This module contains the binding of outputs. An output that is too small or too large is refused, and apart
from the log nothing will ever show that it was there. Any other one is bound with a black back buffer of its
size and format, and from then on the two always are of one layout.
-/

namespace Overlay

def Layout.OutOfRange (l : Layout) : Prop :=
  l.width = 0 ∨ maxDimension < l.width ∨ l.height = 0 ∨ maxDimension < l.height

theorem Layout.packed_valid_iff (width height : Nat) (format : PixelFormat) :
    (packed width height format).Valid ↔ ¬(packed width height format).OutOfRange := by
  constructor
  . rintro ⟨width_pos, height_pos, width_le, height_le, _⟩
    unfold OutOfRange
    omega
  . intro fits
    unfold OutOfRange at fits
    exact {
      width_pos := by omega
      height_pos := by omega
      width_le := by omega
      height_le := by omega
      row_le_pitch := Nat.le_refl _ }

namespace Surface

theorem valid_iff (s : Surface) (windows : Windows) :
    (s.packedLayout windows).Valid ↔ ¬(s.packedLayout windows).OutOfRange := by
  -- The rows are packed, so that only the size can be wrong.
  rw [← packed_packedLayout]
  exact Layout.packed_valid_iff ..

theorem packedLayout_paint (s : Surface) (windows : Windows) (painting : Painting) :
    let painted := s.paint windows fun s => painting.apply s
    painted.1.packedLayout painted.2 = s.packedLayout windows := by
  cases s with
  | buffer fb =>
    have layout := fb.layout_painting painting
    exact congrArg (fun l => Layout.packed l.width l.height l.format) layout
  | screen display =>
    have layout := (congrArg FrameBuffer.layout (Screen.toBuffer_paintings display [painting])).trans
      (display.toBuffer.layout_painting painting)
    exact congrArg (fun l => Layout.packed l.width l.height l.format) layout
  | raster grid =>
    have kept : Canvas.Kept fun other : Raster =>
        Layout.packed other.width other.height other.format
          = .packed grid.width grid.height grid.format := by
      intro other x y color same
      have stored : Layout.packed (other.writePixel x y color).width (other.writePixel x y color).height
          (other.writePixel x y color).format = .packed other.width other.height other.format := by
        unfold Raster.writePixel
        split <;> rfl
      exact stored.trans same
    apply kept.painting
    . intro other x y row format same
      exact kept.copyPixels same x y row format
    . rfl
  | window id =>
    show (Surface.window id).packedLayout (windows.modify id fun w => painting.apply w) = _
    apply packedLayout_modify
    intro w
    apply (Window.kept_layout w.shadow.layout).painting
    . intro v x y row format same
      rw [Window.layout_copyRow, same]
    . rfl

end Surface

namespace Compositor

variable {c c' : Compositor}

def SameButLog (c c' : Compositor) : Prop := ∃ log, c' = { c with log := log }

namespace SameButLog

theorem refuse (same : SameButLog c c') (request : Log.LayerRequest) (id : LayerId) :
    SameButLog (c.refuse request id) (c'.refuse request id) := by
  obtain ⟨log, rfl⟩ := same
  exact ⟨_, rfl⟩

theorem restack (same : SameButLog c c') (f : LayerStack → LayerStack) :
    SameButLog { c with stack := f c.stack } { c' with stack := f c'.stack } := by
  obtain ⟨log, rfl⟩ := same
  exact ⟨log, rfl⟩

variable (same : SameButLog c c')
include same

theorem target_eq : c'.target = c.target := by
  obtain ⟨log, rfl⟩ := same
  rfl

theorem screenSize_eq : c'.screenSize = c.screenSize := by
  obtain ⟨log, rfl⟩ := same
  rfl

theorem windows_eq : c'.windows = c.windows := by
  obtain ⟨log, rfl⟩ := same
  rfl

theorem layer?_eq : c'.layer? = c.layer? := by
  obtain ⟨log, rfl⟩ := same
  rfl

theorem height?_eq : c'.height? = c.height? := by
  obtain ⟨log, rfl⟩ := same
  rfl

theorem drawArea (area : Rect) : SameButLog (c.drawArea area) (c'.drawArea area) := by
  unfold Compositor.drawArea
  rw [same.target_eq]
  split
  . exact same
  . obtain ⟨log, rfl⟩ := same
    dsimp only
    split <;> exact ⟨log, rfl⟩

theorem hide (id : LayerId) : SameButLog (c.hide id) (c'.hide id) := by
  unfold Compositor.hide
  rw [same.layer?_eq]
  split
  . exact same.refuse .hide id
  . exact same.restack (·.hide id)

theorem place (id : LayerId) (height : Coord) : SameButLog (c.place id height) (c'.place id height) := by
  unfold Compositor.place
  rw [same.layer?_eq]
  split
  . exact same.refuse .place id
  . split
    . exact same.hide id
    . exact same.restack (·.place id height.toNat)

theorem moveTo (id : LayerId) (position : Point) :
    SameButLog (c.moveTo id position) (c'.moveTo id position) := by
  unfold Compositor.moveTo
  rw [same.layer?_eq, same.windows_eq]
  split
  . exact same.refuse .move id
  . exact (same.restack (·.modify id (·.moveTo position))).drawArea _

theorem perform (call : Call) : SameButLog (c.perform call) (c'.perform call) := by
  cases call with
  | setOutput output =>
    show SameButLog (c.setOutput output).1 (c'.setOutput output).1
    unfold Compositor.setOutput
    rw [same.windows_eq]
    obtain ⟨log, rfl⟩ := same
    dsimp only
    split <;> exact ⟨_, rfl⟩
  | newLayer => exact same.restack (·.add)
  | removeLayer id =>
    show SameButLog (c.removeLayer id) (c'.removeLayer id)
    unfold Compositor.removeLayer
    rw [same.layer?_eq]
    split
    . exact same.refuse .remove id
    . exact same.restack (·.erase id)
  | editLayer id e => exact same.restack (·.modify id (·.edit e))
  | place id height => exact same.place id height
  | hide id => exact same.hide id
  | raise id =>
    show SameButLog (c.raise id) (c'.raise id)
    unfold Compositor.raise
    rw [same.layer?_eq, same.height?_eq]
    split
    . exact same.refuse .raise id
    . split
      . exact same.place id .greatest
      . exact same
  | moveTo id position => exact same.moveTo id position
  | moveBy id delta =>
    show SameButLog (c.moveBy id delta) (c'.moveBy id delta)
    unfold Compositor.moveBy
    rw [same.layer?_eq]
    split
    . exact same.refuse .move id
    . exact same.moveTo id _
  | drawArea area => exact same.drawArea area
  | drawLayer id =>
    show SameButLog (c.drawLayer id) (c'.drawLayer id)
    unfold Compositor.drawLayer
    rw [same.layer?_eq, same.windows_eq]
    split
    . exact same.refuse .draw id
    . split
      . exact same.drawArea _
      . exact same
  | draw =>
    show SameButLog c.draw c'.draw
    unfold Compositor.draw
    rw [same.screenSize_eq]
    exact same.drawArea _
  | addWindow w =>
    obtain ⟨log, rfl⟩ := same
    exact ⟨log, rfl⟩
  | editWindow id e =>
    obtain ⟨log, rfl⟩ := same
    exact ⟨log, rfl⟩
  | paintOutput stroke =>
    show SameButLog (c.paintOutput stroke) (c'.paintOutput stroke)
    unfold Compositor.paintOutput
    rw [same.target_eq]
    split
    . exact same
    . obtain ⟨log, rfl⟩ := same
      exact ⟨log, rfl⟩

theorem performAll (calls : List Call) : SameButLog (c.performAll calls) (c'.performAll calls) := by
  induction calls generalizing c c' with
  | nil => exact same
  | cons call calls ih => exact ih (same.perform call)

end SameButLog

def Paired (c : Compositor) : Prop := ∀ t, c.target = some t → t.back.layout = t.output.packedLayout c.windows

theorem layout_compose (c : Compositor) (back : FrameBuffer) (area : Rect) :
    (c.compose back area).layout = back.layout := by
  unfold compose
  induction c.stack.visible generalizing back with
  | nil => rfl
  | cons l layers ih =>
    rw [List.foldl_cons, ih, Layer.drawTo]
    cases l.window? c.windows with
    | none => rfl
    | some w => exact back.layout_painting (.draw w l.position area)

namespace Paired

variable (paired : c.Paired)
include paired

theorem congr (same : SameScreen c c') : c'.Paired := by
  unfold Paired
  rw [same.windows, same.target]
  exact paired

theorem valid {t : Target} (bound : c.target = some t) : (t.output.packedLayout c.windows).Valid := by
  rw [← paired t bound]
  exact t.back.valid

theorem drawArea (area : Rect) : (c.drawArea area).Paired := by
  cases bound : c.target with
  | none =>
    rw [Compositor.drawArea, bound]
    exact paired
  | some t =>
    cases empty : (area.inter t.back.bounds).isEmpty with
    | true =>
      rw [drawArea_of_isEmpty bound empty]
      exact paired
    | false =>
      rw [drawArea_of_target bound empty]
      rintro t' ⟨⟩
      show (c.compose t.back _).layout = _
      rw [layout_compose, paired t bound]
      exact (t.output.packedLayout_paint c.windows (.copy (c.compose t.back _) _ _)).symm

theorem setOutput (output : Surface) : (c.setOutput output).1.Paired := by
  by_cases valid : (output.packedLayout c.windows).Valid
  . obtain ⟨back, made, bound⟩ := setOutput_of_valid valid
    rw [bound]
    rintro t ⟨⟩
    exact layout_ofLayout? made
  . rw [setOutput_of_invalid valid]
    exact paired.congr ⟨rfl, rfl⟩

theorem perform (call : Call) : (c.perform call).Paired := by
  by_cases layers : call.OnLayers
  . obtain ⟨c', same, performed⟩ := exists_drawArea c layers
    rw [performed]
    cases c.drawn? call with
    | none => exact paired.congr same
    | some area => exact (paired.congr same).drawArea area
  . cases call with
    | setOutput output => exact paired.setOutput output
    | addWindow w =>
      intro t bound
      exact (paired t bound).trans (Surface.packedLayout_push (paired.valid bound) w).symm
    | editWindow id e =>
      intro t bound
      rw [paired t bound]
      exact (Surface.packedLayout_modify (Window.layout_edit · e) t.output c.windows id).symm
    | paintOutput stroke =>
      show (c.paintOutput stroke).Paired
      unfold paintOutput
      split
      . exact paired
      . next t bound =>
        rintro t' ⟨⟩
        exact (paired t bound).trans (t.output.packedLayout_paint c.windows (.stroke stroke)).symm
    | _ => exact absurd trivial layers

theorem performAll (calls : List Call) : (c.performAll calls).Paired :=
  performAll_keeps (P := Paired) (fun _ call paired => perform paired call) paired calls

end Paired

structure BindsOrKeeps (c : Compositor) (output : Surface) : Prop where
  refused : ∀ error, (c.setOutput output).2 = .error error
    ↔ error = .invalidGeometry ∧ (output.packedLayout c.windows).OutOfRange
  kept : (output.packedLayout c.windows).OutOfRange → SameButLog c (c.setOutput output).1
  unnoticed : (output.packedLayout c.windows).OutOfRange → ∀ calls,
    SameButLog (c.performAll calls) ((c.setOutput output).1.performAll calls)
  drawn : (output.packedLayout c.windows).OutOfRange → c.Sound → ∀ t, c.target = some t → ∀ area,
    ∃ t', Redrawn c t area ((c.setOutput output).1.drawArea area) t'
  bound : ¬(output.packedLayout c.windows).OutOfRange → ∃ back,
    (c.setOutput output).2 = .ok () ∧ (c.setOutput output).1.target = some ⟨output, back⟩
      ∧ back.layout = output.packedLayout c.windows
      ∧ (∀ p, back.bounds.contains p = true → back.pixel? p = some .black)
      ∧ (c.setOutput output).1.windows = c.windows ∧ (c.setOutput output).1.stack = c.stack

theorem bindsOrKeeps (c : Compositor) (output : Surface) : c.BindsOrKeeps output := by
  have valid_iff := output.valid_iff c.windows
  by_cases out : (output.packedLayout c.windows).OutOfRange
  . have refused := setOutput_of_invalid fun valid => valid_iff.mp valid out
    have same : SameButLog c (c.setOutput output).1 := by
      rw [refused]
      exact ⟨_, rfl⟩
    constructor
    . intro error
      rw [refused, Except.error.injEq, eq_comm]
      exact (and_iff_left out).symm
    . exact fun _ => same
    . exact fun _ => same.performAll
    . intro _ sound t bound area
      obtain ⟨t', redrawn, _⟩ := sound.redrawn_drawArea bound area
      obtain ⟨log, drawn⟩ := same.drawArea area
      rw [drawn]
      -- What a drawing comes to says nothing about the log.
      exact ⟨t', { redrawn with }⟩
    . exact fun fits => absurd out fits
  . obtain ⟨back, made, bound⟩ := setOutput_of_valid (valid_iff.mpr out)
    constructor
    . intro error
      rw [bound]
      exact ⟨nofun, fun ⟨_, refused⟩ => absurd refused out⟩
    . exact fun refused => absurd refused out
    . exact fun refused => absurd refused out
    . exact fun refused => absurd refused out
    . intro _
      rw [bound]
      exact ⟨back, rfl, rfl, layout_ofLayout? made, fun p => FrameBuffer.pixel?_ofLayout? made, rfl, rfl⟩

end Compositor
end Overlay
