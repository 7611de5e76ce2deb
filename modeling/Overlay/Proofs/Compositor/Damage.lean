import Overlay.Proofs.Compositor.Current

/-!
This module contains what a move redraws. It draws the hull of the place that a layer leaves and of the
one that it then covers, so that the output stays as a full drawing would leave it. Only where the hull is
too long for a coordinate is a part of the two places missed.
-/

namespace Overlay

namespace Layer

def damage (l : Layer) (windows : Windows) (position : Point) : Rect :=
  match l.window? windows with
  | some w => (Rect.mk l.position w.size).hull ⟨position, w.size⟩
  | none => .empty

end Layer

namespace Compositor

variable {c c' : Compositor} {t t' : Target} {id : LayerId} {l : Layer} {w : Window} {area : Rect}

theorem moveTo_of_layer? (found : c.layer? id = some l) (position : Point) :
    c.moveTo id position
      =
    (c.modifyLayer id (·.moveTo position)).drawArea (l.damage c.windows position) := by
  have same : (l.moveTo position).window? c.windows = l.window? c.windows := rfl
  rw [moveTo, found]
  dsimp only
  rw [Layer.damage, Layer.bounds?, Layer.bounds?, same]
  cases l.window? c.windows with
  | none => rfl
  | some w => rfl

theorem moveBy_of_layer? (found : c.layer? id = some l) (delta : Point) :
    c.moveBy id delta = c.moveTo id (l.position + delta) := by
  rw [moveBy, found]

namespace Sound

variable (sound : c.Sound) (bound : c.target = some t)
include sound bound

theorem pixel?_back_outside (bound' : (c.drawArea area).target = some t') {p : Point}
    (out : area.contains p = false) : t'.back.pixel? p = t.back.pixel? p := by
  cases empty : (area.inter t.back.bounds).isEmpty with
  | true =>
    rw [drawArea_of_isEmpty bound empty, bound] at bound'
    cases bound'
    rfl
  | false =>
    rw [drawArea_of_target bound empty] at bound'
    cases bound'
    have composed := painted_compose sound.in_sync t.back (area.inter t.back.bounds)
    show Readable.pixel? (c.compose t.back _) p = _
    rw [composed.pixel]
    show (t.back.pixel? p).map _ = _
    cases old : t.back.pixel? p with
    | none => rfl
    | some color =>
      have seen := sound.isSome_back bound p
      rw [old] at seen
      rw [if_neg]
      . rfl
      . rw [sound.covers_inter_iff bound area seen.symm, out]
        exact Bool.false_ne_true

theorem output?_draw (p : Point) :
    c.draw.output? p
      =
    if (Rect.ofSize c.screenSize).contains p then
      (c.stack.shown? c.windows p.x.val p.y.val).or (t.back.pixel? p)
    else
      none := by
  obtain ⟨t', redrawn, sound'⟩ := sound.redrawn_drawArea bound (.ofSize c.screenSize)
  rw [draw, output?_of_target redrawn.target]
  split
  . next seen => rw [redrawn.output p seen seen, redrawn.back p seen seen]
  . next unseen =>
    rw [← Option.not_isSome_iff_eq_none, sound'.isSome_output redrawn.target, redrawn.screen]
    exact unseen

theorem settled_iff :
    (∀ p, c.draw.output? p = c.output? p)
      ↔
    ∀ p, (Rect.ofSize c.screenSize).contains p = true →
      t.output.pixel? c.windows p
        =
      (c.stack.shown? c.windows p.x.val p.y.val).or (t.back.pixel? p) := by
  simp only [output?_of_target bound, sound.output?_draw bound]
  constructor
  . intro settled p seen
    rw [← settled p, if_pos seen]
  . intro settled p
    split
    . next seen => rw [settled p seen]
    . next unseen =>
      rw [eq_comm, ← Option.not_isSome_iff_eq_none, sound.isSome_output bound]
      exact unseen

end Sound

/-- Whether the output is not a window that a layer shows. -/
def Apart (c : Compositor) (t : Target) : Prop :=
  ∀ id l window, c.layer? id = some l → l.window = some window → t.output ≠ .window window

namespace Apart

variable (apart : c.Apart t)
include apart

theorem moveLayer (id : LayerId) (position : Point) :
    (c.modifyLayer id (·.moveTo position)).Apart t := by
  intro id' l' window found shown
  have found : (c.stack.modify id (·.moveTo position)).find? id' = some l' := found
  rw [LayerStack.find?_modify (Layer.id_moveTo position)] at found
  split at found
  . obtain ⟨l, before, rfl⟩ := Option.map_eq_some_iff.mp found
    exact apart id' l window before shown
  . exact apart id' l' window found shown

theorem shown?_eq (redrawn : Redrawn c t area c' t') (x y : Int) :
    c'.stack.shown? c'.windows x y = c.stack.shown? c.windows x y := by
  rw [redrawn.stack]
  apply LayerStack.shown?_setWindows
  intro id l found
  rw [Layer.window?, Layer.window?]
  cases shown : l.window with
  | none => rfl
  | some window => exact redrawn.windows window (apart id l window found shown)

end Apart

theorem Sound.settled_drawArea (sound : c.Sound) (bound : c.target = some t) (apart : c.Apart t)
    (off : ∀ p, (Rect.ofSize c.screenSize).contains p = true → area.contains p = false →
      t.output.pixel? c.windows p = (c.stack.shown? c.windows p.x.val p.y.val).or (t.back.pixel? p))
    (p : Point) : (c.drawArea area).draw.output? p = (c.drawArea area).output? p := by
  obtain ⟨t', redrawn, sound'⟩ := sound.redrawn_drawArea bound area
  have back := fun p => sound.pixel?_back_outside bound redrawn.target (p := p)
  generalize c.drawArea area = c' at *
  apply (sound'.settled_iff redrawn.target).mpr
  intro p seen
  rw [redrawn.screen] at seen
  rw [apart.shown?_eq redrawn]
  cases within : area.contains p with
  | true =>
    rw [redrawn.output p within seen, redrawn.back p within seen, ← Option.or_assoc, Option.or_self]
  | false => rw [redrawn.outside p within, back p within, off p seen within]

theorem Sound.settled_draw (sound : c.Sound) (bound : c.target = some t) (apart : c.Apart t) (p : Point) :
    c.draw.draw.output? p = c.draw.output? p := by
  apply sound.settled_drawArea bound apart
  intro q seen unseen
  rw [seen] at unseen
  cases unseen

def Spanned (a b p : Point) : Prop :=
  p.x.val - min a.x.val b.x.val < 2147483647 ∧ p.y.val - min a.y.val b.y.val < 2147483647

theorem contains_damage_iff {position p : Point} (window : l.window? c.windows = some w)
    (h : (Rect.mk l.position w.size).contains p = true ∨ (Rect.mk position w.size).contains p = true) :
    (l.damage c.windows position).contains p = true ↔ Spanned l.position position p := by
  have proper : ∀ place : Point, (Rect.mk place w.size).isEmpty = false := by
    intro place
    have width_pos : 0 < w.width := w.shadow.valid.width_pos
    have height_pos : 0 < w.height := w.shadow.valid.height_pos
    rw [Rect.isEmpty_eq_false, Window.val_size_x, Window.val_size_y]
    omega
  rw [Layer.damage, window]
  exact Rect.contains_hull_iff (proper _) (proper _) h

theorem shown?_moveLayer {position p : Point} (found : c.layer? id = some l)
    (window : l.window? c.windows = some w) (hx : p.x.val < 2147483647) (hy : p.y.val < 2147483647)
    (out : ¬((Rect.mk l.position w.size).contains p = true
      ∨ (Rect.mk position w.size).contains p = true)) :
    (c.stack.modify id (·.moveTo position)).shown? c.windows p.x.val p.y.val
      =
    c.stack.shown? c.windows p.x.val p.y.val := by
  rw [not_or, Bool.not_eq_true, Bool.not_eq_true] at out
  have moved_window : (l.moveTo position).window? c.windows = some w := window
  apply LayerStack.shown?_modify (Layer.id_moveTo position)
  . exact LayerStack.shownBy?_outside found (Layer.bounds?_of_window? window) hx hy out.1
  . exact LayerStack.shownBy?_outside (LayerStack.find?_moveTo_self found position)
      (Layer.bounds?_of_window? moved_window) hx hy out.2

/-- What a move of a layer does at the points of the place that it leaves and of the one that it then
covers: those that the hull of both spans are drawn, and those that it does not span are missed. -/
structure Moved (c : Compositor) (t : Target) (id : LayerId) (l : Layer) (w : Window) (position : Point)
    (c' : Compositor) (t' : Target) : Prop where
  target : c'.target = some t'
  stack : c'.stack = c.stack.modify id (·.moveTo position)
  redrawn : ∀ p, (Rect.ofSize c.screenSize).contains p = true →
    (Rect.mk l.position w.size).contains p = true ∨ (Rect.mk position w.size).contains p = true →
    Spanned l.position position p →
    t'.back.pixel? p = (c'.stack.shown? c'.windows p.x.val p.y.val).or (t.back.pixel? p)
      ∧ t'.output.pixel? c'.windows p = t'.back.pixel? p
  missed : ∀ p, (Rect.mk l.position w.size).contains p = true
      ∨ (Rect.mk position w.size).contains p = true →
    ¬Spanned l.position position p →
    t'.back.pixel? p = t.back.pixel? p ∧ t'.output.pixel? c'.windows p = t.output.pixel? c.windows p

namespace Sound

variable (sound : c.Sound) (bound : c.target = some t) (apart : c.Apart t)
  (found : c.layer? id = some l) (window : l.window? c.windows = some w) (position : Point)
include sound bound apart found window

theorem exists_moved : ∃ t', Moved c t id l w position (c.moveTo id position) t' := by
  have moved : (c.modifyLayer id (·.moveTo position)).Sound := sound.congr (sameScreen_modifyLayer ..)
  have spanned : ∀ p, (Rect.mk l.position w.size).contains p = true
      ∨ (Rect.mk position w.size).contains p = true →
    ((l.damage c.windows position).contains p = true ↔ Spanned l.position position p) :=
    fun _ => contains_damage_iff window
  rw [moveTo_of_layer? found]
  obtain ⟨t', redrawn, _⟩ := moved.redrawn_drawArea (t := t) bound (l.damage c.windows position)
  refine ⟨t', redrawn.target, redrawn.stack, ?_, ?_⟩
  . intro p seen places within
    rw [← spanned p places] at within
    refine ⟨?_, redrawn.output p within seen⟩
    rw [redrawn.back p within seen, (apart.moveLayer id position).shown?_eq redrawn]
  . intro p places out
    rw [← spanned p places, Bool.not_eq_true] at out
    exact ⟨moved.pixel?_back_outside (t := t) bound redrawn.target out, redrawn.outside p out⟩

theorem settled_moveTo
    (reached : ∀ p, (Rect.ofSize c.screenSize).contains p = true →
      (Rect.mk l.position w.size).contains p = true ∨ (Rect.mk position w.size).contains p = true →
      Spanned l.position position p)
    (settled : ∀ p, c.draw.output? p = c.output? p) (p : Point) :
    (c.moveTo id position).draw.output? p = (c.moveTo id position).output? p := by
  have moved : (c.modifyLayer id (·.moveTo position)).Sound := sound.congr (sameScreen_modifyLayer ..)
  have before := (sound.settled_iff bound).mp settled
  rw [moveTo_of_layer? found]
  apply moved.settled_drawArea (t := t) bound (apart.moveLayer id position)
  intro q seen out
  obtain ⟨⟨_, x_lt⟩, _, y_lt⟩ := sound.small_of_screen bound seen
  have apart_from_both : ¬((Rect.mk l.position w.size).contains q = true
      ∨ (Rect.mk position w.size).contains q = true) := by
    intro places
    rw [(contains_damage_iff window places).mpr (reached q seen places)] at out
    cases out
  have same := shown?_moveLayer found window (by omega) (by omega) apart_from_both
  exact (before q seen).trans (congrArg (·.or (t.back.pixel? q)) same.symm)

end Sound

/-- A move draws the place that a layer leaves and the one that it then covers, as far as the hull of both
spans them, and nothing more of them. If it spans all of them that is on the screen, then an output that a
full drawing would not change before the move is one that it does not change after it. -/
theorem moveTo_redraws (reachable : c.Reachable) (bound : c.target = some t) (apart : c.Apart t)
    (found : c.layer? id = some l) (window : l.window? c.windows = some w) (position : Point) :
    ∃ t', Moved c t id l w position (c.moveTo id position) t'
      ∧ ((∀ p, (Rect.ofSize c.screenSize).contains p = true →
          (Rect.mk l.position w.size).contains p = true ∨ (Rect.mk position w.size).contains p = true →
          Spanned l.position position p) →
        (∀ p, c.draw.output? p = c.output? p) →
        ∀ p, (c.moveTo id position).draw.output? p = (c.moveTo id position).output? p) := by
  obtain ⟨t', moved⟩ := reachable.sound.exists_moved bound apart found window position
  exact ⟨t', moved, reachable.sound.settled_moveTo bound apart found window position⟩

theorem moveTo_redraws_off_edge :
    let l : Layer := ⟨1, ⟨-1, 2⟩, some 0, false⟩
    ∃ c t w, Reachable c ∧ c.target = some t ∧ c.Apart t ∧ c.layer? 1 = some l
      ∧ l.window? c.windows = some w
      ∧ (∃ t', Moved c t 1 l w ⟨3, 1⟩ (c.moveTo 1 ⟨3, 1⟩) t')
      ∧ ∀ p, (c.moveTo 1 ⟨3, 1⟩).draw.output? p = (c.moveTo 1 ⟨3, 1⟩).output? p := by
  intro l
  have made : Window.Reachable _ := ⟨2, 1, .rgb888, _, [.stroke (.clear .white)], rfl, rfl⟩
  have stored := (Reachable.create .fresh).step (.addWindow _ made)
  have set_up := (stored.step .newLayer).step (.modifyLayer 1 fun l => (l.setWindow 0).moveTo ⟨-1, 2⟩)
  let fb : FrameBuffer :=
    ⟨⟨4, 3, 20, .bgrx8888⟩, Storage.zeros 60, by decide, Storage.size_zeros 60⟩
  have on_buffer := (set_up.step (.place 1 0)).step (.setOutput (.buffer fb) trivial)
  obtain ⟨c, t, w, reachable, bound, found, window, plain⟩ :
      ∃ c t w, Reachable c ∧ c.target = some t ∧ c.layer? 1 = some l ∧ l.window? c.windows = some w
        ∧ ∀ id, t.output ≠ .window id := ⟨_, _, _, on_buffer, rfl, rfl, rfl, nofun⟩
  obtain ⟨t', redrawn, _⟩ := reachable.sound.redrawn_drawArea bound (.ofSize c.screenSize)
  have apart : c.draw.Apart t' := fun _ _ id _ _ same => plain id ((redrawn.kind id).mp same)
  have drawn := reachable.step .draw
  have found' : c.draw.layer? 1 = some l := by
    rw [draw, (sameLayers_drawArea ..).layer?_eq, found]
  have window' : l.window? c.draw.windows = some w := by
    rw [← window]
    exact redrawn.windows 0 (plain 0)
  have settled := reachable.sound.settled_draw bound fun _ _ id _ _ => plain id
  obtain ⟨_, moved, settles⟩ := moveTo_redraws drawn redrawn.target apart found' window' ⟨3, 1⟩
  refine ⟨c.draw, t', w, drawn, redrawn.target, apart, found', window', ⟨_, moved⟩, settles ?_ settled⟩
  intro p seen _
  have small := drawn.sound.small_of_screen redrawn.target seen
  have left : min (-1 : Coord).val (3 : Coord).val = -1 := by decide
  have top : min (2 : Coord).val (1 : Coord).val = 1 := by decide
  simp only [Spanned, l, left, top]
  omega

/-- A layer that comes from the far left onto the screen is not drawn where it then is, although the output
was as a full drawing would leave it. -/
theorem moveTo_misses_place :
    let l : Layer := ⟨1, ⟨-2147483648, 0⟩, some 0, false⟩
    ∃ c t w, Reachable c ∧ c.target = some t ∧ c.Apart t ∧ c.layer? 1 = some l
      ∧ l.window? c.windows = some w
      ∧ (Rect.ofSize c.screenSize).contains .origin = true
      ∧ (Rect.mk .origin w.size).contains .origin = true
      ∧ (∀ p, c.draw.output? p = c.output? p)
      ∧ (c.moveTo 1 .origin).output? .origin = some .black
      ∧ (c.moveTo 1 .origin).draw.output? .origin = some .white := by
  intro l
  have made : Window.Reachable _ := ⟨1, 1, .rgb888, _, [.stroke (.clear .white)], rfl, rfl⟩
  have stored := (Reachable.create .fresh).step (.addWindow _ made)
  have set_up := (stored.step .newLayer).step
    (.modifyLayer 1 fun l => (l.setWindow 0).moveTo ⟨-2147483648, 0⟩)
  let fb : FrameBuffer := ⟨⟨1, 1, 3, .rgb888⟩, Storage.zeros 3, by decide, Storage.size_zeros 3⟩
  have on_buffer := (set_up.step (.place 1 0)).step (.setOutput (.buffer fb) trivial)
  obtain ⟨c, t, w, reachable, bound, apart, found, window, screen, size, settled, kept, shown⟩ :
      ∃ c t w, Reachable c ∧ c.target = some t ∧ c.Apart t ∧ c.layer? 1 = some l
        ∧ l.window? c.windows = some w ∧ c.screenSize = ⟨1, 1⟩ ∧ w.size = ⟨1, 1⟩
        ∧ t.output.pixel? c.windows .origin = (c.stack.shown? c.windows 0 0).or (t.back.pixel? .origin)
        ∧ (c.moveTo 1 .origin).output? .origin = some .black
        ∧ (c.moveTo 1 .origin).draw.output? .origin = some .white :=
    ⟨_, _, _, on_buffer, rfl, fun _ _ _ _ _ => nofun, rfl, rfl, by decide +kernel, by decide +kernel,
      by decide +kernel, by decide +kernel, by decide +kernel⟩
  refine ⟨c, t, w, reachable, bound, apart, found, window, ?_, ?_, ?_, kept, shown⟩
  . rw [screen]
    decide
  . rw [size]
    decide
  . apply (reachable.sound.settled_iff bound).mpr
    intro p seen
    have small := seen
    rw [screen, Rect.contains_ofSize, Rect.covers_ofSize] at small
    simp only [Coord.val_ofNat] at small
    obtain rfl : p = .origin := by
      ext
      . show p.x.val = 0
        omega
      . show p.y.val = 0
        omega
    exact settled

end Compositor
end Overlay
