import Overlay.Compositor
import Overlay.Proofs.Layer.Stack

/-!
This module contains the meaning of drawing an area: whatever was done to a compositor before, the area
then shows the stack of layers on the back buffer and on the output, and nothing else has changed.
-/

namespace Overlay

theorem Layout.Valid.repacked {l : Layout} (valid : l.Valid) :
    (packed l.width l.height l.format).Valid where
  width_pos := valid.width_pos
  height_pos := valid.height_pos
  width_le := valid.width_le
  height_le := valid.height_le
  row_le_pitch := Nat.le_refl _

namespace Compositor

variable {c c' : Compositor} {t : Target}

/-- What holds of a compositor at all times: its windows keep one picture each, and the back buffer has a
pixel for each pixel of the output. -/
structure Sound (c : Compositor) : Prop where
  in_sync : Windows.InSync c.windows
  fits : ∀ t, c.target = some t →
    t.output.packedLayout c.windows
      =
    .packed t.back.layout.width t.back.layout.height t.back.layout.format
  whole : ∀ t, c.target = some t → t.output.Whole

structure Redrawn (c : Compositor) (t : Target) (area : Rect) (c' : Compositor) (t' : Target) :
    Prop where
  target : c'.target = some t'
  back : ∀ p, area.contains p = true → (Rect.ofSize c.screenSize).contains p = true →
    t'.back.pixel? p = (c.stack.shown? c.windows p.x.val p.y.val).or (t.back.pixel? p)
  output : ∀ p, area.contains p = true → (Rect.ofSize c.screenSize).contains p = true →
    t'.output.pixel? c'.windows p = t'.back.pixel? p
  outside : ∀ p, area.contains p = false →
    t'.output.pixel? c'.windows p = t.output.pixel? c.windows p
  padding : ∀ i, t'.output.padding? i = t.output.padding? i
  stack : c'.stack = c.stack
  screen : c'.screenSize = c.screenSize
  kind : ∀ id, t'.output = .window id ↔ t.output = .window id
  windows : ∀ id, t.output ≠ .window id → c'.windows[id]? = c.windows[id]?

theorem drawArea_of_isEmpty (bound : c.target = some t) {area : Rect}
    (empty : (area.inter t.back.bounds).isEmpty = true) : c.drawArea area = c := by
  rw [drawArea, bound]
  dsimp only
  rw [if_pos empty]

theorem drawArea_of_target (bound : c.target = some t) {area : Rect}
    (proper : (area.inter t.back.bounds).isEmpty = false) :
    c.drawArea area
      =
    let area := area.inter t.back.bounds
    let back := c.compose t.back area
    let presented := t.output.paint c.windows fun s => back.copyTo s area.pos area
    { c with windows := presented.2, target := some ⟨presented.1, back⟩ } := by
  rw [drawArea, bound]
  dsimp only
  rw [if_neg]
  rw [proper]
  exact Bool.false_ne_true

theorem screenSize_eq (bound : c.target = some t) (valid : (t.output.packedLayout c.windows).Valid) :
    c.screenSize = (t.output.packedLayout c.windows).size := by
  rw [screenSize, bound]
  exact Surface.inspect_extent valid

theorem encoded_compose (sync : Windows.InSync c.windows) (back : FrameBuffer) (area : Rect) :
    FrameBuffer.Encoded
      (fun x y => if area.Covers x y then c.stack.shown? c.windows x y else none)
      back (c.compose back area) :=
  Layer.encoded_drawAll sync c.stack.visible back area

theorem painted_compose (sync : Windows.InSync c.windows) (back : FrameBuffer) (area : Rect) :
    Readable.Painted
      (fun p => if area.Covers p.x.val p.y.val then c.stack.shown? c.windows p.x.val p.y.val else none)
      back (c.compose back area) :=
  FrameBuffer.Encoded.painted
    (fun x y => if area.Covers x y then c.stack.shown? c.windows x y else none)
    (encoded_compose sync back area)

namespace Sound

variable (sound : c.Sound) (bound : c.target = some t)
include sound bound

theorem valid : (t.output.packedLayout c.windows).Valid := by
  rw [sound.fits t bound]
  exact t.back.valid.repacked

theorem screen_eq : Rect.ofSize c.screenSize = t.back.bounds := by
  rw [screenSize_eq bound (sound.valid bound), sound.fits t bound]
  rfl

theorem isSome_output (p : Point) :
    (t.output.pixel? c.windows p).isSome = (Rect.ofSize c.screenSize).contains p := by
  rw [Surface.isSome_pixel? (sound.valid bound) (sound.whole t bound), sound.fits t bound,
    sound.screen_eq bound]
  rfl

theorem isSome_back (p : Point) :
    (t.back.pixel? p).isSome = (Rect.ofSize c.screenSize).contains p := by
  rw [sound.screen_eq bound]
  exact LawfulCanvas.isSome_pixel? t.back p trivial

theorem small_of_screen {p : Point} (seen : (Rect.ofSize c.screenSize).contains p = true) :
    (0 ≤ p.x.val ∧ p.x.val < 8192) ∧ 0 ≤ p.y.val ∧ p.y.val < 8192 := by
  have width_le : t.back.layout.width ≤ 8192 := t.back.valid.width_le
  have height_le : t.back.layout.height ≤ 8192 := t.back.valid.height_le
  rw [sound.screen_eq bound, FrameBuffer.bounds, t.back.valid.contains_size] at seen
  omega

theorem covers_inter_iff (area : Rect) {p : Point}
    (seen : (Rect.ofSize c.screenSize).contains p = true) :
    (area.inter t.back.bounds).Covers p.x.val p.y.val ↔ area.contains p = true := by
  obtain ⟨⟨_, x_lt⟩, _, y_lt⟩ := sound.small_of_screen bound seen
  rw [← Rect.contains_iff_covers (by omega) (by omega), Rect.contains_inter, ← sound.screen_eq bound]
  exact ⟨fun h => h.1, fun h => ⟨h, seen⟩⟩

theorem pixel?_compose (area : Rect) {p : Point} (in_area : area.contains p = true)
    (seen : (Rect.ofSize c.screenSize).contains p = true) :
    (c.compose t.back (area.inter t.back.bounds)).pixel? p
      =
    (c.stack.shown? c.windows p.x.val p.y.val).or (t.back.pixel? p) := by
  have composed := painted_compose sound.in_sync t.back (area.inter t.back.bounds)
  have old := sound.isSome_back bound p
  rw [seen, Option.isSome_iff_exists] at old
  obtain ⟨color, old⟩ := old
  show Readable.pixel? (c.compose t.back _) p = _
  rw [composed.pixel, if_pos ((sound.covers_inter_iff bound area seen).mpr in_area)]
  show (t.back.pixel? p).map _ = _
  rw [old]
  cases c.stack.shown? c.windows p.x.val p.y.val <;> rfl

theorem pixel?_presented {s : Surface} {windows : Windows} {back : FrameBuffer} {area : Rect}
    (presented : Surface.Presented
      (back.sent? (area.inter t.back.bounds).pos (area.inter t.back.bounds)) t.output c.windows s windows)
    (same : ∀ p, (back.pixel? p).isSome = (t.back.pixel? p).isSome) (p : Point) :
    s.pixel? windows p
      =
    if area.contains p then
      if (Rect.ofSize c.screenSize).contains p then back.pixel? p else none
    else
      t.output.pixel? c.windows p := by
  have old := sound.isSome_output bound p
  have new := same p
  rw [sound.isSome_back bound] at new
  rw [presented.pixel]
  cases seen : (Rect.ofSize c.screenSize).contains p with
  | false =>
    rw [seen, Option.isSome_eq_false_iff, Option.isNone_iff_eq_none] at old
    rw [old, if_neg Bool.false_ne_true]
    exact (ite_self _).symm
  | true =>
    rw [seen, Option.isSome_iff_exists] at old new
    obtain ⟨color, old⟩ := old
    obtain ⟨color', new⟩ := new
    rw [old, FrameBuffer.sent?_self, new, if_pos rfl]
    have covers := sound.covers_inter_iff bound area seen
    by_cases within : area.contains p = true
    . rw [if_pos within, if_pos (covers.mpr within)]
      rfl
    . rw [if_neg within, if_neg fun h => within (covers.mp h)]
      rfl

theorem redrawn_drawArea (area : Rect) :
    ∃ t', Redrawn c t area (c.drawArea area) t' ∧ (c.drawArea area).Sound := by
  cases empty : (area.inter t.back.bounds).isEmpty with
  | true =>
    -- The area has no point on the screen.
    have nowhere : ∀ p, area.contains p = true → (Rect.ofSize c.screenSize).contains p = true → False := by
      intro p in_area seen
      have covered := (sound.covers_inter_iff bound area seen).mpr in_area
      rw [Rect.not_isEmpty_of_covers covered] at empty
      cases empty
    rw [drawArea_of_isEmpty bound empty]
    refine ⟨t, ?_, sound⟩
    exact {
      target := bound
      back := fun p in_area seen => (nowhere p in_area seen).elim
      output := fun p in_area seen => (nowhere p in_area seen).elim
      outside := fun _ _ => rfl
      padding := fun _ => rfl
      stack := rfl
      screen := rfl
      kind := fun _ => Iff.rfl
      windows := fun _ _ => rfl }
  | false =>
    rw [drawArea_of_target bound empty]
    dsimp only
    have composed := painted_compose sound.in_sync t.back (area.inter t.back.bounds)
    have shown := fun p => sound.pixel?_compose bound area (p := p)
    generalize c.compose t.back (area.inter t.back.bounds) = back at *
    have presented := Surface.presented_copyTo (sound.valid bound) (sound.whole t bound) back
      (area.inter t.back.bounds).pos (area.inter t.back.bounds)
    generalize (t.output.paint c.windows fun s => back.copyTo s (area.inter t.back.bounds).pos
      (area.inter t.back.bounds)) = presentation at *
    obtain ⟨output, windows⟩ := presentation
    have valid : (output.packedLayout windows).Valid := by
      rw [presented.layout]
      exact sound.valid bound
    have same : ∀ p, (back.pixel? p).isSome = (t.back.pixel? p).isSome := by
      intro p
      show (Readable.pixel? back p).isSome = _
      rw [composed.pixel, Option.isSome_map]
      rfl
    have pixels := sound.pixel?_presented bound presented same
    refine ⟨⟨output, back⟩, ?_, ?_⟩
    . exact {
        target := rfl
        back := shown
        output := by
          intro p in_area seen
          show output.pixel? windows p = back.pixel? p
          rw [pixels, if_pos in_area, if_pos seen]
        outside := by
          intro p out
          show output.pixel? windows p = _
          rw [pixels, out, if_neg Bool.false_ne_true]
        padding := presented.padding
        stack := rfl
        screen := by
          rw [screenSize_eq bound (sound.valid bound), screenSize]
          dsimp only
          rw [Surface.inspect_extent valid, presented.layout]
        kind := presented.kind
        windows := presented.others }
    . constructor
      . exact presented.in_sync sound.in_sync
      . rintro t' ⟨⟩
        show output.packedLayout windows = _
        rw [presented.layout, sound.fits t bound]
        have width : back.layout.width = t.back.layout.width := composed.width
        have height : back.layout.height = t.back.layout.height := composed.height
        have format : back.layout.format = t.back.layout.format := composed.format
        rw [← width, ← height, ← format]
      . rintro t' ⟨⟩
        exact presented.whole

end Sound

structure SameScreen (c c' : Compositor) : Prop where
  windows : c'.windows = c.windows
  target : c'.target = c.target

theorem sameScreen_modifyLayer (c : Compositor) (id : LayerId) (f : Layer → Layer) :
    SameScreen c (c.modifyLayer id f) := ⟨rfl, rfl⟩

theorem sameScreen_removeLayer (c : Compositor) (id : LayerId) : SameScreen c (c.removeLayer id) := by
  unfold removeLayer
  split <;> exact ⟨rfl, rfl⟩

theorem sameScreen_hide (c : Compositor) (id : LayerId) : SameScreen c (c.hide id) := by
  unfold hide
  split <;> exact ⟨rfl, rfl⟩

theorem sameScreen_place (c : Compositor) (id : LayerId) (height : Coord) :
    SameScreen c (c.place id height) := by
  unfold place
  split
  . exact ⟨rfl, rfl⟩
  . split
    . exact sameScreen_hide c id
    . exact ⟨rfl, rfl⟩

theorem sameScreen_raise (c : Compositor) (id : LayerId) : SameScreen c (c.raise id) := by
  unfold raise
  split
  . exact ⟨rfl, rfl⟩
  . split
    . exact sameScreen_place c id .greatest
    . exact ⟨rfl, rfl⟩

inductive Redraws (c : Compositor) : Compositor → Prop where
  | unseen {c' : Compositor} (same : SameScreen c c') : Redraws c c'
  | drawn {c' : Compositor} (same : SameScreen c c') (area : Rect) : Redraws c (c'.drawArea area)

theorem redraws_drawLayer (c : Compositor) (id : LayerId) : Redraws c (c.drawLayer id) := by
  unfold drawLayer
  split
  . exact .unseen ⟨rfl, rfl⟩
  . split
    . exact .drawn ⟨rfl, rfl⟩ _
    . exact .unseen ⟨rfl, rfl⟩

theorem redraws_moveTo (c : Compositor) (id : LayerId) (position : Point) :
    Redraws c (c.moveTo id position) := by
  unfold moveTo
  split
  . exact .unseen ⟨rfl, rfl⟩
  . exact .drawn (sameScreen_modifyLayer ..) _

theorem redraws_moveBy (c : Compositor) (id : LayerId) (delta : Point) :
    Redraws c (c.moveBy id delta) := by
  unfold moveBy
  split
  . exact .unseen ⟨rfl, rfl⟩
  . exact redraws_moveTo c id _

theorem layout_ofLayout? {layout : Layout} {fb : FrameBuffer}
    (made : FrameBuffer.ofLayout? layout = .ok fb) : fb.layout = layout := by
  unfold FrameBuffer.ofLayout? at made
  split at made
  . cases made
    rfl
  . contradiction

theorem setOutput_of_valid {output : Surface} (valid : (output.packedLayout c.windows).Valid) :
    ∃ back, FrameBuffer.ofLayout? (output.packedLayout c.windows) = .ok back
      ∧ c.setOutput output
        = ({ c.post (.outputBound (output.packedLayout c.windows)) with target := some ⟨output, back⟩ },
          .ok ()) := by
  unfold setOutput FrameBuffer.ofLayout?
  dsimp only
  rw [dif_pos valid]
  exact ⟨_, rfl, rfl⟩

theorem setOutput_of_invalid {output : Surface} (invalid : ¬(output.packedLayout c.windows).Valid) :
    c.setOutput output
      =
    (c.post (.backBufferFailed (output.packedLayout c.windows) .invalidGeometry),
      .error .invalidGeometry) := by
  unfold setOutput FrameBuffer.ofLayout?
  dsimp only
  rw [dif_neg invalid]

namespace Sound

theorem congr (sound : c.Sound) (same : SameScreen c c') : c'.Sound where
  in_sync := by
    rw [same.windows]
    exact sound.in_sync
  fits := by
    rw [same.windows, same.target]
    exact sound.fits
  whole := by
    rw [same.target]
    exact sound.whole

theorem drawArea (sound : c.Sound) (area : Rect) : (c.drawArea area).Sound := by
  cases bound : c.target with
  | none =>
    rw [Compositor.drawArea, bound]
    exact sound
  | some t =>
    obtain ⟨_, _, sound'⟩ := sound.redrawn_drawArea bound area
    exact sound'

theorem redraws (sound : c.Sound) (change : Redraws c c') : c'.Sound := by
  cases change with
  | unseen same => exact sound.congr same
  | drawn same area => exact (sound.congr same).drawArea area

theorem addWindow (sound : c.Sound) {w : Window} (sync : w.InSync) : (c.addWindow w).1.Sound where
  in_sync := sound.in_sync.push sync
  fits t bound := by
    show t.output.packedLayout (c.windows.push w) = _
    rw [Surface.packedLayout_push (sound.valid bound), sound.fits t bound]
  whole := sound.whole

theorem modifyWindow (sound : c.Sound) (id : WindowId) {f : Window → Window}
    (syncs : ∀ w, Window.InSync w → Window.InSync (f w))
    (keeps : ∀ w, (f w).shadow.layout = w.shadow.layout) : (c.modifyWindow id f).Sound where
  in_sync := sound.in_sync.modify id syncs
  fits t bound := by
    show t.output.packedLayout (c.windows.modify id f) = _
    rw [Surface.packedLayout_modify keeps, sound.fits t bound]
  whole := sound.whole

theorem setOutput (sound : c.Sound) {output : Surface} (whole : output.Whole) :
    (c.setOutput output).1.Sound := by
  unfold Compositor.setOutput
  dsimp only
  cases made : FrameBuffer.ofLayout? (output.packedLayout c.windows) with
  | error _ => exact sound.congr ⟨rfl, rfl⟩
  | ok back =>
    exact {
      in_sync := sound.in_sync
      fits := by
        rintro t ⟨⟩
        rw [layout_ofLayout? made, Surface.packed_packedLayout]
        rfl
      whole := by
        rintro t ⟨⟩
        exact whole }

end Sound

inductive Step (c : Compositor) : Compositor → Prop where
  | addWindow (w : Window) (made : w.Reachable) : Step c (c.addWindow w).1
  | editWindow (id : WindowId) (edit : Window.Edit) : Step c (c.modifyWindow id (·.edit edit))
  | setOutput (output : Surface) (whole : output.Whole) : Step c (c.setOutput output).1
  | paintOutput (t : Target) (bound : c.target = some t) (output : Surface) (whole : output.Whole)
      (same : output.packedLayout c.windows = t.output.packedLayout c.windows) :
      Step c { c with target := some { t with output := output } }
  | newLayer : Step c c.newLayer.1
  | modifyLayer (id : LayerId) (f : Layer → Layer) : Step c (c.modifyLayer id f)
  | removeLayer (id : LayerId) : Step c (c.removeLayer id)
  | hide (id : LayerId) : Step c (c.hide id)
  | place (id : LayerId) (height : Coord) : Step c (c.place id height)
  | raise (id : LayerId) : Step c (c.raise id)
  | moveTo (id : LayerId) (position : Point) : Step c (c.moveTo id position)
  | moveBy (id : LayerId) (delta : Point) : Step c (c.moveBy id delta)
  | drawArea (area : Rect) : Step c (c.drawArea area)
  | drawLayer (id : LayerId) : Step c (c.drawLayer id)
  | draw : Step c c.draw
  | setLog (log : Log.Logger) : Step c { c with log := log }

inductive Reachable : Compositor → Prop where
  | create (log : Log.Logger) : Reachable (create #[] log)
  | step {c c' : Compositor} (before : Reachable c) (next : Step c c') : Reachable c'

theorem sound_create {windows : Windows} (sync : Windows.InSync windows) (log : Log.Logger) :
    (create windows log).Sound where
  in_sync := sync
  fits := nofun
  whole := nofun

theorem Sound.step (sound : c.Sound) (next : Step c c') : c'.Sound := by
  cases next with
  | addWindow w made => exact sound.addWindow made.inSync
  | editWindow id edit =>
    exact sound.modifyWindow id (fun _ sync => Window.inSync_edit sync edit)
      fun w => Window.layout_edit w edit
  | setOutput output whole => exact sound.setOutput whole
  | paintOutput t bound output whole same =>
    exact {
      in_sync := sound.in_sync
      fits := by
        rintro t' ⟨⟩
        exact same.trans (sound.fits t bound)
      whole := by
        rintro t' ⟨⟩
        exact whole }
  | newLayer => exact sound.congr ⟨rfl, rfl⟩
  | modifyLayer id f => exact sound.congr (sameScreen_modifyLayer ..)
  | removeLayer id => exact sound.congr (sameScreen_removeLayer ..)
  | hide id => exact sound.congr (sameScreen_hide ..)
  | place id height => exact sound.congr (sameScreen_place ..)
  | raise id => exact sound.congr (sameScreen_raise ..)
  | moveTo id position => exact sound.redraws (redraws_moveTo c id position)
  | moveBy id delta => exact sound.redraws (redraws_moveBy c id delta)
  | drawArea area => exact sound.drawArea area
  | drawLayer id => exact sound.redraws (redraws_drawLayer c id)
  | draw => exact sound.drawArea _
  | setLog log => exact sound.congr ⟨rfl, rfl⟩

theorem Reachable.sound (reachable : c.Reachable) : c.Sound := by
  induction reachable with
  | create log =>
    apply sound_create
    intro id w found
    simp at found
  | step _ next ih => exact ih.step next

/-- Whatever happened before, drawing an area shows in it the topmost layer that shows something at each
point, and changes nothing else. -/
theorem exists_redrawn (reachable : c.Reachable) (bound : c.target = some t) (area : Rect) :
    ∃ t', Redrawn c t area (c.drawArea area) t' := by
  obtain ⟨t', redrawn, _⟩ := reachable.sound.redrawn_drawArea bound area
  exact ⟨t', redrawn⟩

theorem exists_redrawn_shared :
    ∃ c t t', Reachable c ∧ c.target = some t
      ∧ Redrawn c t ⟨⟨-5, 0⟩, ⟨7, 9⟩⟩ (c.drawArea ⟨⟨-5, 0⟩, ⟨7, 9⟩⟩) t' := by
  have made : Window.Reachable _ := ⟨2, 1, .rgb888, _, [.stroke (.clear .white)], rfl, rfl⟩
  have stored := (Reachable.create .fresh).step (.addWindow _ made)
  have first := (stored.step .newLayer).step (.modifyLayer 1 (·.setWindow 0))
  have second := (first.step .newLayer).step (.modifyLayer 2 fun l => (l.setWindow 0).moveTo ⟨-1, 2⟩)
  have stacked := (second.step (.place 1 0)).step (.place 2 1)
  let fb : FrameBuffer :=
    ⟨⟨4, 3, 20, .bgrx8888⟩, Storage.zeros 60, by decide, Storage.size_zeros 60⟩
  have reachable := stacked.step (.setOutput (.buffer fb) trivial)
  obtain ⟨t', redrawn⟩ := exists_redrawn reachable rfl ⟨⟨-5, 0⟩, ⟨7, 9⟩⟩
  exact ⟨_, _, t', reachable, rfl, redrawn⟩

end Compositor
end Overlay
