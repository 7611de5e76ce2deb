import Overlay.Proofs.Compositor.Damage
import Overlay.Proofs.Surface.Plot

/-!
This module contains the drawing of several areas. Whatever the list of areas, and whatever their order, what
they leave is one plot of the stack on the back buffer and one of the back buffer on the output, both over all
places that the areas cover.
-/

namespace Overlay

open Readable
open Canvas (plotAll overlay within)

namespace Target

def plot (t : Target) (windows : Windows) (areas : List Rect) (rule : Nat → Nat → Option Color) :
    Target × Windows :=
  let back := plotAll t.back (within areas rule)
  let presented := t.output.plot windows (within areas back.color?)
  (⟨presented.1, back⟩, presented.2)

theorem plot_nil (t : Target) (windows : Windows) (rule : Nat → Nat → Option Color) :
    t.plot windows [] rule = (t, windows) := by
  have back : plotAll t.back (within [] rule) = t.back := by
    apply Canvas.plotAll_idle
    intro x y _ _
    exact Canvas.within_nil rule x y
  have presented (fb : FrameBuffer) :
      t.output.plot windows (within [] fb.color?) = (t.output, windows) := by
    apply Surface.plot_idle
    intro x y _ _
    exact Canvas.within_nil fb.color? x y
  simp only [plot, back, presented]

end Target

namespace Compositor

variable {c c' : Compositor} {t t' : Target} {area : Rect} {areas areas' : List Rect}

def drawAll (c : Compositor) (areas : List Rect) : Compositor := areas.foldl drawArea c

def Clean (c : Compositor) : Prop := ∀ t, c.target = some t → t.back.IsShadow

def scene (c : Compositor) (x y : Nat) : Option Color := c.stack.shown? c.windows x y

theorem compose_eq_plotAll (sync : Windows.InSync c.windows) (back : FrameBuffer) (area : Rect) :
    c.compose back area
      =
    plotAll back (within [area] c.scene) := by
  apply (encoded_compose sync back area).unique
  apply (FrameBuffer.encoded_plotAll back _).congr
  intro x y _ _
  exact Canvas.within_singleton area c.scene x y

namespace Clean

theorem congr (clean : c.Clean) (same : SameScreen c c') : c'.Clean := by
  intro t bound
  rw [same.target] at bound
  exact clean t bound

theorem drawArea (clean : c.Clean) (sound : c.Sound) (area : Rect) : (c.drawArea area).Clean := by
  cases bound : c.target with
  | none =>
    rw [Compositor.drawArea, bound]
    exact clean
  | some t =>
    cases empty : (area.inter t.back.bounds).isEmpty with
    | true =>
      rw [drawArea_of_isEmpty bound empty]
      exact clean
    | false =>
      rw [drawArea_of_target bound empty]
      rintro t' ⟨⟩
      show (c.compose t.back _).IsShadow
      rw [compose_eq_plotAll sound.in_sync]
      exact (clean t bound).plotAll _

theorem redraws (clean : c.Clean) (sound : c.Sound) (change : Redraws c c') : c'.Clean := by
  cases change with
  | unseen same => exact clean.congr same
  | drawn same area => exact (clean.congr same).drawArea (sound.congr same) area

theorem setOutput (clean : c.Clean) (output : Surface) : (c.setOutput output).1.Clean := by
  unfold Compositor.setOutput
  dsimp only
  cases made : FrameBuffer.ofLayout? (output.packedLayout c.windows) with
  | error _ => exact clean.congr ⟨rfl, rfl⟩
  | ok back =>
    rintro t ⟨⟩
    rw [← Surface.packed_packedLayout] at made
    exact FrameBuffer.isShadow_packed made

theorem step (clean : c.Clean) (sound : c.Sound) (next : Step c c') : c'.Clean := by
  cases next with
  | addWindow w made => exact clean
  | editWindow id edit => exact clean
  | setOutput output whole => exact clean.setOutput output
  | paintOutput t bound output whole same =>
    rintro t' ⟨⟩
    exact clean t bound
  | newLayer => exact clean
  | modifyLayer id f => exact clean
  | removeLayer id => exact clean.congr (sameScreen_removeLayer ..)
  | hide id => exact clean.congr (sameScreen_hide ..)
  | place id height => exact clean.congr (sameScreen_place ..)
  | raise id => exact clean.congr (sameScreen_raise ..)
  | moveTo id position => exact clean.redraws sound (redraws_moveTo c id position)
  | moveBy id delta => exact clean.redraws sound (redraws_moveBy c id delta)
  | drawArea area => exact clean.drawArea sound area
  | drawLayer id => exact clean.redraws sound (redraws_drawLayer c id)
  | draw => exact clean.drawArea sound _
  | setLog log => exact clean

end Clean

theorem Reachable.clean (reachable : c.Reachable) : c.Clean := by
  induction reachable with
  | create log => nofun
  | step before next ih => exact ih.step before.sound next

namespace Sound

variable (sound : c.Sound) (bound : c.target = some t)
include sound bound

theorem size_output : (t.output.packedLayout c.windows).width = t.back.layout.width
    ∧ (t.output.packedLayout c.windows).height = t.back.layout.height := by
  rw [sound.fits t bound]
  exact ⟨rfl, rfl⟩

theorem exists_seen {x y : Nat} (hx : x < t.back.layout.width) (hy : y < t.back.layout.height) :
    ∃ p, (Rect.ofSize c.screenSize).contains p = true
      ∧ ∀ area : Rect, area.Covers x y ↔ area.contains p = true := by
  obtain ⟨p, x_val, y_val, inside⟩ := t.back.valid.exists_point hx hy
  have seen : (Rect.ofSize c.screenSize).contains p = true := by
    rw [sound.screen_eq bound]
    exact inside
  have small := sound.small_of_screen bound seen
  refine ⟨p, seen, ?_⟩
  intro area
  rw [Rect.contains_iff_covers (by omega) (by omega), x_val, y_val]

theorem plot_congr (same : ∀ x y : Nat, x < t.back.layout.width → y < t.back.layout.height →
      ((∃ area ∈ areas, area.Covers x y) ↔ ∃ area ∈ areas', area.Covers x y))
    (rule : Nat → Nat → Option Color) : t.plot c.windows areas rule = t.plot c.windows areas' rule := by
  have back : plotAll t.back (within areas rule) = plotAll t.back (within areas' rule) := by
    apply Canvas.plotAll_congr
    intro x y hx hy
    exact Canvas.within_congr (same x y hx hy) rule
  have presented (fb : FrameBuffer) : t.output.plot c.windows (within areas fb.color?)
      = t.output.plot c.windows (within areas' fb.color?) := by
    apply Surface.plot_congr
    obtain ⟨width, height⟩ := sound.size_output bound
    rw [width, height]
    intro x y hx hy
    exact Canvas.within_congr (same x y hx hy) fb.color?
  simp only [Target.plot, back, presented]

theorem plot_plot (rule : Nat → Nat → Option Color) :
    (t.plot c.windows areas rule).1.plot (t.plot c.windows areas rule).2 areas' rule
      =
    t.plot c.windows (areas ++ areas') rule := by
  have back : plotAll (plotAll t.back (within areas rule)) (within areas' rule)
      = plotAll t.back (within (areas ++ areas') rule) := by
    rw [FrameBuffer.plotAll_plotAll, Canvas.overlay_within]
  have layout (rule : Nat → Nat → Option Color) : (plotAll t.back rule).layout = t.back.layout :=
    (FrameBuffer.encoded_plotAll t.back rule).layout
  have presented := Surface.plot_plot (sound.valid bound) (sound.whole t bound)
    (within areas (plotAll t.back (within areas rule)).color?)
    (within areas' (plotAll t.back (within (areas ++ areas') rule)).color?)
  have joined : t.output.plot c.windows
        (overlay (within areas' (plotAll t.back (within (areas ++ areas') rule)).color?)
          (within areas (plotAll t.back (within areas rule)).color?))
      = t.output.plot c.windows
        (within (areas ++ areas') (plotAll t.back (within (areas ++ areas') rule)).color?) := by
    apply Surface.plot_congr
    obtain ⟨width, height⟩ := sound.size_output bound
    rw [width, height, ← back]
    intro x y hx hy
    apply FrameBuffer.overlay_within_plotAll
    . rw [layout]
      exact hx
    . rw [layout]
      exact hy
  simp only [Target.plot, back, presented, joined]

end Sound

def plotted (c : Compositor) (t : Target) (areas : List Rect) : Compositor :=
  let drawn := t.plot c.windows areas c.scene
  { c with windows := drawn.2, target := some drawn.1 }

namespace Sound

variable (sound : c.Sound) (bound : c.target = some t)
include sound bound

theorem drawArea_eq_plotted (clean : c.Clean) (area : Rect) : c.drawArea area = c.plotted t [area] := by
  have clipped : ∀ x y : Nat, x < t.back.layout.width → y < t.back.layout.height →
      ((∃ r ∈ [area.inter t.back.bounds], r.Covers x y) ↔ ∃ r ∈ [area], r.Covers x y) := by
    intro x y hx hy
    obtain ⟨p, seen, covers⟩ := sound.exists_seen bound hx hy
    simp only [List.mem_singleton, exists_eq_left]
    rw [covers, covers, Rect.contains_inter, ← sound.screen_eq bound]
    exact and_iff_left seen
  cases empty : (area.inter t.back.bounds).isEmpty with
  | true =>
    have plot : t.plot c.windows [area] c.scene = t.plot c.windows [] c.scene := by
      apply sound.plot_congr bound
      intro x y hx hy
      have nowhere : ¬∃ r ∈ [area], r.Covers x y := by
        rw [← clipped x y hx hy]
        rintro ⟨r, hit, covers⟩
        rw [List.mem_singleton.mp hit] at covers
        rw [Rect.not_isEmpty_of_covers covers] at empty
        cases empty
      exact iff_of_false nowhere (by rintro ⟨_, ⟨⟩, _⟩)
    rw [drawArea_of_isEmpty bound empty, plotted, plot, Target.plot_nil, ← bound]
  | false =>
    have plot : t.plot c.windows [area] c.scene = t.plot c.windows [area.inter t.back.bounds] c.scene := by
      apply sound.plot_congr bound
      intro x y hx hy
      exact (clipped x y hx hy).symm
    have shadow : (plotAll t.back (within [area.inter t.back.bounds] c.scene)).IsShadow :=
      (clean t bound).plotAll _
    rw [drawArea_of_target bound empty, plotted, plot]
    dsimp only
    rw [compose_eq_plotAll sound.in_sync,
      Surface.paint_copyTo_eq_plot (sound.valid bound) (sound.whole t bound) shadow]
    rfl

end Sound

theorem Apart.drawArea (apart : c.Apart t) (redrawn : Redrawn c t area (c.drawArea area) t') :
    (c.drawArea area).Apart t' := by
  intro id l window found shown
  rw [(sameLayers_drawArea c area).layer?_eq] at found
  exact mt (redrawn.kind window).mp (apart id l window found shown)

theorem Sound.drawAll_eq_plotted (sound : c.Sound) (clean : c.Clean) (bound : c.target = some t)
    (apart : c.Apart t) (areas : List Rect) : c.drawAll areas = c.plotted t areas := by
  induction areas generalizing c t with
  | nil =>
    rw [plotted, Target.plot_nil, ← bound]
    rfl
  | cons area areas ih =>
    have drawn := sound.drawArea_eq_plotted bound clean area
    obtain ⟨t', redrawn, sound'⟩ := sound.redrawn_drawArea bound area
    have rest := ih sound' (clean.drawArea sound area) redrawn.target (apart.drawArea redrawn)
    have scene : (c.drawArea area).scene = c.scene := by
      funext x y
      exact apart.shown?_eq redrawn x y
    have target : some t' = (c.plotted t [area]).target := by
      rw [← drawn, redrawn.target]
    cases target
    rw [plotted, scene, drawn] at rest
    show (c.drawArea area).drawAll areas = _
    rw [drawn, rest]
    simp only [plotted, sound.plot_plot bound, List.singleton_append]

theorem Sound.drawAll_congr (sound : c.Sound) (clean : c.Clean) (bound : c.target = some t)
    (apart : c.Apart t) (same : ∀ p, (Rect.ofSize c.screenSize).contains p = true →
      areas.any (·.contains p) = areas'.any (·.contains p)) :
    c.drawAll areas = c.drawAll areas' := by
  rw [sound.drawAll_eq_plotted clean bound apart, sound.drawAll_eq_plotted clean bound apart]
  rw [plotted, plotted, sound.plot_congr bound]
  intro x y hx hy
  obtain ⟨p, seen, covers⟩ := sound.exists_seen bound hx hy
  simp only [covers, ← List.any_eq_true, same p seen]

/-- Lists of areas that contain the same points on the screen come to the same when they are drawn, to the
last byte of the back buffer and of the output. To draw an area once more thus changes nothing, two areas may
be drawn in either order, and areas that together contain the screen come to a drawing of all of it. -/
theorem drawAll_of_same_points (reachable : c.Reachable) (bound : c.target = some t) (apart : c.Apart t) :
    (∀ areas areas', (∀ p, (Rect.ofSize c.screenSize).contains p = true →
        areas.any (·.contains p) = areas'.any (·.contains p)) →
      c.drawAll areas = c.drawAll areas')
    ∧ (∀ area, (c.drawArea area).drawArea area = c.drawArea area)
    ∧ (∀ area area', (c.drawArea area).drawArea area' = (c.drawArea area').drawArea area)
    ∧ ∀ areas, (∀ p, (Rect.ofSize c.screenSize).contains p = true → areas.any (·.contains p) = true) →
      c.drawAll areas = c.draw := by
  have congr : ∀ areas areas', (∀ p, (Rect.ofSize c.screenSize).contains p = true →
      areas.any (·.contains p) = areas'.any (·.contains p)) → c.drawAll areas = c.drawAll areas' :=
    fun _ _ => reachable.sound.drawAll_congr reachable.clean bound apart
  refine ⟨congr, ?_, ?_, ?_⟩
  . intro area
    apply congr [area, area] [area]
    intro p _
    simp only [List.any_cons, List.any_nil, Bool.or_false, Bool.or_self]
  . intro area area'
    apply congr [area, area'] [area', area]
    intro p _
    simp only [List.any_cons, List.any_nil, Bool.or_false]
    exact Bool.or_comm ..
  . intro areas all
    apply congr areas [.ofSize c.screenSize]
    intro p seen
    rw [all p seen, List.any_cons, seen, Bool.true_or]

theorem drawAll_strips :
    let strips : List Rect := [⟨⟨-7, 1⟩, ⟨20, 5⟩⟩, ⟨⟨0, 0⟩, ⟨4, 2⟩⟩, ⟨⟨1, 1⟩, ⟨1, 1⟩⟩]
    ∃ c t, Reachable c ∧ c.target = some t ∧ c.Apart t ∧ c.drawAll strips = c.draw
      ∧ c.draw.output? ⟨1, 0⟩ = some .white := by
  intro strips
  have white : Window.Reachable _ := ⟨2, 1, .rgb888, _, [.stroke (.clear .white)], rfl, rfl⟩
  have stored := (Reachable.create .fresh).step (.addWindow _ white)
  have layered := (stored.step .newLayer).step (.modifyLayer 1 (·.setWindow 0))
  let fb : FrameBuffer :=
    ⟨⟨4, 3, 20, .bgrx8888⟩, Storage.zeros 60, by decide, Storage.size_zeros 60⟩
  have on_buffer := (layered.step (.place 1 0)).step (.setOutput (.buffer fb) trivial)
  obtain ⟨c, t, reachable, bound, plain, screen, drawn⟩ :
      ∃ c t, Reachable c ∧ c.target = some t ∧ (∀ id, t.output ≠ .window id) ∧ c.screenSize = ⟨4, 3⟩
        ∧ c.draw.output? ⟨1, 0⟩ = some .white :=
    ⟨_, _, on_buffer, rfl, nofun, by decide +kernel, by decide +kernel⟩
  have apart : c.Apart t := fun _ _ id _ _ => plain id
  have same := (drawAll_of_same_points reachable bound apart).2.2.2 strips
  refine ⟨c, t, reachable, bound, apart, same ?_, drawn⟩
  intro p seen
  have small := reachable.sound.small_of_screen bound seen
  have covers (r : Rect) : r.contains p = true ↔ r.Covers p.x.val p.y.val :=
    Rect.contains_iff_covers (by omega) (by omega)
  have left : (-7 : Coord).val = -7 := by decide
  rw [screen, covers, Rect.covers_ofSize] at seen
  simp only [Coord.val_ofNat] at seen
  simp only [strips, List.any_cons, List.any_nil, Bool.or_false, Bool.or_eq_true, covers, Rect.covers_mk,
    Coord.val_ofNat, left]
  omega

end Compositor
end Overlay
