import Overlay.Proofs.Compositor.Calls
import Overlay.Proofs.Compositor.Damage

/-!
This module contains the agreement of an output with the back buffer behind it. As long as only the
compositor writes on an output, both show the same wherever an area was drawn since the output was bound,
and where none was, the back buffer is black and the output is still as it was.
-/

namespace Overlay

namespace Compositor

variable {c c' c'' : Compositor} {t : Target} {call : Call} {area : Rect} {areas areas' : List Rect}

def drawn? (c : Compositor) : Call → Option Rect
  | .moveTo id position => (c.layer? id).map fun l => l.damage c.windows position
  | .moveBy id delta => (c.layer? id).map fun l => l.damage c.windows (l.position + delta)
  | .drawArea area => some area
  | .drawLayer id => (c.layer? id).bind fun l => l.bounds? c.windows
  | .draw => some (.ofSize c.screenSize)
  | _ => none

/-- Whether a call keeps the output and leaves its pixels to the compositor. -/
def Leaves (c : Compositor) : Call → Prop
  | .setOutput output => (c.setOutput output).2 ≠ .ok ()
  | .addWindow w => w.Reachable
  | .editWindow id _ => ∀ t, c.target = some t → t.output ≠ .window id
  | .paintOutput _ => False
  | _ => True

/-- Runs in which only the compositor writes on the output, with the areas that are drawn on the way. -/
inductive Run (start : Compositor) : Compositor → List Rect → Prop where
  | rest : Run start start []
  | step {c : Compositor} {areas : List Rect} (before : Run start c areas) (call : Call)
      (leaves : c.Leaves call) : Run start (c.perform call) (areas ++ (c.drawn? call).toList)

def Call.OnLayers : Call → Prop
  | .setOutput _ | .addWindow _ | .editWindow .. | .paintOutput _ => False
  | _ => True

theorem exists_drawArea (c : Compositor) (layers : call.OnLayers) :
    ∃ c', SameScreen c c' ∧ c.perform call = (c.drawn? call).elim c' c'.drawArea := by
  cases call with
  | newLayer => exact ⟨c.newLayer.1, ⟨rfl, rfl⟩, rfl⟩
  | removeLayer id => exact ⟨_, sameScreen_removeLayer c id, rfl⟩
  | editLayer id e => exact ⟨_, sameScreen_modifyLayer .., rfl⟩
  | place id height => exact ⟨_, sameScreen_place c id height, rfl⟩
  | hide id => exact ⟨_, sameScreen_hide c id, rfl⟩
  | raise id => exact ⟨_, sameScreen_raise c id, rfl⟩
  | moveTo id position =>
    cases found : c.layer? id with
    | none =>
      refine ⟨c.refuse .move id, ⟨rfl, rfl⟩, ?_⟩
      rw [perform_of_unknown found rfl, drawn?, found]
      rfl
    | some l =>
      refine ⟨c.modifyLayer id (·.moveTo position), sameScreen_modifyLayer .., ?_⟩
      rw [perform, drawn?, found]
      exact moveTo_of_layer? found position
  | moveBy id delta =>
    cases found : c.layer? id with
    | none =>
      refine ⟨c.refuse .move id, ⟨rfl, rfl⟩, ?_⟩
      rw [perform_of_unknown found rfl, drawn?, found]
      rfl
    | some l =>
      refine ⟨c.modifyLayer id (·.moveTo (l.position + delta)), sameScreen_modifyLayer .., ?_⟩
      rw [perform, drawn?, moveBy_of_layer? found, found]
      exact moveTo_of_layer? found _
  | drawArea area => exact ⟨c, ⟨rfl, rfl⟩, rfl⟩
  | drawLayer id =>
    cases found : c.layer? id with
    | none =>
      refine ⟨c.refuse .draw id, ⟨rfl, rfl⟩, ?_⟩
      rw [perform_of_unknown found rfl, drawn?, found]
      rfl
    | some l =>
      refine ⟨c, ⟨rfl, rfl⟩, ?_⟩
      rw [perform, drawn?, Compositor.drawLayer, found]
      dsimp only [Option.bind_some]
      cases l.bounds? c.windows with
      | none => rfl
      | some area => rfl
  | draw => exact ⟨c, ⟨rfl, rfl⟩, rfl⟩
  | _ => exact layers.elim

structure SameOutput (c c' : Compositor) : Prop where
  sound : c'.Sound
  target : c'.target = c.target
  output : ∀ p, c'.output? p = c.output? p

theorem SameScreen.sameOutput (same : SameScreen c c') (sound : c.Sound) : SameOutput c c' where
  sound := sound.congr same
  target := same.target
  output := output?_congr same

theorem sameScreen_setOutput {output : Surface} (refused : (c.setOutput output).2 ≠ .ok ()) :
    SameScreen c (c.setOutput output).1 := by
  unfold setOutput at *
  dsimp only at *
  split
  . exact ⟨rfl, rfl⟩
  . next made =>
    rw [made] at refused
    exact absurd rfl refused

theorem sameOutput_setWindows (bound : c.target = some t) {windows : Windows}
    (sound' : ({ c with windows := windows } : Compositor).Sound)
    (kept : ∀ id, t.output = .window id → windows[id]? = c.windows[id]?) :
    SameOutput c { c with windows := windows } where
  sound := sound'
  target := rfl
  output := by
    intro p
    rw [output?_of_target bound, output?_of_target (c := { c with windows := windows }) bound]
    exact Surface.pixel?_congr kept p

namespace Sound

variable (sound : c.Sound) (bound : c.target = some t)
include sound bound

theorem sameOutput_addWindow {w : Window} (made : w.Reachable) : SameOutput c (c.addWindow w).1 := by
  apply sameOutput_setWindows bound (sound.addWindow made.inSync)
  intro id same
  have valid := sound.valid bound
  rw [same] at valid
  exact Surface.getElem?_push valid w

theorem sameOutput_editWindow {id : WindowId} (other : t.output ≠ .window id) (e : Window.Edit) :
    SameOutput c (c.modifyWindow id (·.edit e)) := by
  apply sameOutput_setWindows bound
  . exact sound.modifyWindow id (fun _ sync => Window.inSync_edit sync e) fun w => Window.layout_edit w e
  . intro id' same
    rw [Array.getElem?_modify, if_neg]
    rintro rfl
    exact other same

theorem exists_sameOutput (leaves : c.Leaves call) :
    ∃ c', SameOutput c c' ∧ c.perform call = (c.drawn? call).elim c' c'.drawArea := by
  by_cases layers : call.OnLayers
  . obtain ⟨c', same, performed⟩ := exists_drawArea c layers
    exact ⟨c', same.sameOutput sound, performed⟩
  . cases call with
    | setOutput output => exact ⟨_, (sameScreen_setOutput leaves).sameOutput sound, rfl⟩
    | addWindow w => exact ⟨_, sound.sameOutput_addWindow bound leaves, rfl⟩
    | editWindow id e => exact ⟨_, sound.sameOutput_editWindow bound (leaves t bound) e, rfl⟩
    | paintOutput stroke => exact leaves.elim
    | _ => exact absurd trivial layers

end Sound

/-- What holds of an output and the back buffer behind it once the output was bound and some areas were
drawn, given what the output showed at first. -/
structure Mirrored (first : Point → Option Color) (screen : Rect) (areas : List Rect) (c : Compositor)
    (t : Target) : Prop where
  sound : c.Sound
  target : c.target = some t
  screen_eq : Rect.ofSize c.screenSize = screen
  pixel : ∀ p, screen.contains p = true →
    t.output.pixel? c.windows p = t.back.pixel? p
      ∨ ((∀ area ∈ areas, area.contains p = false) ∧ t.back.pixel? p = some .black
        ∧ t.output.pixel? c.windows p = first p)

namespace Mirrored

variable {first : Point → Option Color} {screen : Rect}

theorem congr (mirrored : Mirrored first screen areas c t) (same : SameOutput c c') :
    Mirrored first screen areas c' t where
  sound := same.sound
  target := same.target.trans mirrored.target
  screen_eq := by
    rw [same.sound.screen_eq (same.target.trans mirrored.target),
      ← mirrored.sound.screen_eq mirrored.target, mirrored.screen_eq]
  pixel p seen := by
    rw [← output?_of_target (same.target.trans mirrored.target), same.output,
      output?_of_target mirrored.target]
    exact mirrored.pixel p seen

theorem drawArea (mirrored : Mirrored first screen areas c t) (area : Rect) :
    ∃ t', Mirrored first screen (areas ++ [area]) (c.drawArea area) t' := by
  obtain ⟨t', redrawn, sound'⟩ := mirrored.sound.redrawn_drawArea mirrored.target area
  refine ⟨t', sound', redrawn.target, ?_, ?_⟩
  . rw [redrawn.screen, mirrored.screen_eq]
  . intro p seen
    cases within : area.contains p with
    | true =>
      left
      apply redrawn.output p within
      rw [mirrored.screen_eq]
      exact seen
    | false =>
      -- What was so before the drawing still is.
      rw [redrawn.outside p within,
        mirrored.sound.pixel?_back_outside mirrored.target redrawn.target within]
      apply (mirrored.pixel p seen).imp_right
      rintro ⟨undrawn, black, kept⟩
      refine ⟨?_, black, kept⟩
      intro area' mem
      rw [List.mem_append, List.mem_singleton] at mem
      rcases mem with before | rfl
      . exact undrawn area' before
      . exact within

theorem perform (mirrored : Mirrored first screen areas c t) (leaves : c.Leaves call) :
    ∃ t', Mirrored first screen (areas ++ (c.drawn? call).toList) (c.perform call) t' := by
  obtain ⟨c', same, performed⟩ := mirrored.sound.exists_sameOutput mirrored.target leaves
  rw [performed]
  cases c.drawn? call with
  | none =>
    refine ⟨t, ?_⟩
    rw [Option.toList_none, List.append_nil]
    exact mirrored.congr same
  | some area => exact (mirrored.congr same).drawArea area

theorem run (mirrored : Mirrored first screen areas c t) (run : Run c c' areas') :
    ∃ t', Mirrored first screen (areas ++ areas') c' t' := by
  induction run with
  | rest =>
    refine ⟨t, ?_⟩
    rw [List.append_nil]
    exact mirrored
  | step before call leaves ih =>
    obtain ⟨t', mirrored'⟩ := ih
    rw [← List.append_assoc]
    exact mirrored'.perform leaves

theorem output_eq_back (mirrored : Mirrored first screen areas c t) (full : screen ∈ areas) (p : Point) :
    t.output.pixel? c.windows p = t.back.pixel? p := by
  cases seen : screen.contains p with
  | true =>
    rcases mirrored.pixel p seen with same | ⟨undrawn, _⟩
    . exact same
    . rw [undrawn screen full] at seen
      cases seen
  | false =>
    have output := mirrored.sound.isSome_output mirrored.target p
    have back := mirrored.sound.isSome_back mirrored.target p
    rw [mirrored.screen_eq, seen, Option.isSome_eq_false_iff, Option.isNone_iff_eq_none] at output back
    rw [output, back]

end Mirrored

theorem mirrored_setOutput (sound : c.Sound) {output : Surface} (whole : output.Whole)
    (accepted : (c.setOutput output).2 = .ok ()) :
    ∃ t, Mirrored (output.pixel? c.windows) (.ofSize (c.setOutput output).1.screenSize) []
      (c.setOutput output).1 t := by
  have sound' := sound.setOutput whole
  cases made : FrameBuffer.ofLayout? (output.packedLayout c.windows) with
  | error error =>
    rw [setOutput, made] at accepted
    cases accepted
  | ok back =>
    have bound : (c.setOutput output).1.target = some ⟨output, back⟩ := by
      rw [setOutput, made]
    have windows : (c.setOutput output).1.windows = c.windows := by
      rw [setOutput, made]
      rfl
    refine ⟨⟨output, back⟩, sound', bound, rfl, ?_⟩
    intro p seen
    rw [windows]
    right
    refine ⟨List.forall_mem_nil _, ?_, rfl⟩
    apply FrameBuffer.pixel?_ofLayout? made
    rw [← sound'.screen_eq bound]
    exact seen

/-- From when an output is bound, and as long as only the compositor writes on it, each point of the screen
either shows the same on the output and in the back buffer, or it was in no area drawn since, so that the
back buffer is still black there and the output is as it was. Once all of the screen was drawn, output and
back buffer are the same from then on. -/
theorem output_mirrors_back (reachable : c.Reachable) {output : Surface} (whole : output.Whole)
    (accepted : (c.setOutput output).2 = .ok ()) (run : Run (c.setOutput output).1 c' areas) :
    ∃ t, c'.target = some t
      ∧ (∀ p, (Rect.ofSize c'.screenSize).contains p = true →
        t.output.pixel? c'.windows p = t.back.pixel? p
          ∨ ((∀ area ∈ areas, area.contains p = false) ∧ t.back.pixel? p = some .black
            ∧ t.output.pixel? c'.windows p = output.pixel? c.windows p))
      ∧ ∀ c'' areas', Run c'.draw c'' areas' →
        ∃ t', c''.target = some t' ∧ ∀ p, t'.output.pixel? c''.windows p = t'.back.pixel? p := by
  obtain ⟨t₀, bound⟩ := mirrored_setOutput reachable.sound whole accepted
  obtain ⟨t, mirrored⟩ := bound.run run
  refine ⟨t, mirrored.target, ?_, ?_⟩
  . intro p seen
    rw [mirrored.screen_eq] at seen
    exact mirrored.pixel p seen
  . intro c'' areas' later
    obtain ⟨t₁, drawn⟩ := mirrored.drawArea (.ofSize c'.screenSize)
    obtain ⟨t', mirrored'⟩ := drawn.run later
    refine ⟨t', mirrored'.target, mirrored'.output_eq_back ?_⟩
    rw [← mirrored.screen_eq]
    simp

theorem output_mirrors_back_partly :
    ∃ c output c' areas,
      Reachable c ∧ Surface.Whole output ∧ (c.setOutput output).2 = .ok ()
        ∧ Run (c.setOutput output).1 c' areas
        ∧ c'.output? ⟨0, 1⟩ = some .black ∧ c'.output? ⟨1, 1⟩ = some .white
        ∧ ∃ t, c'.target = some t
          ∧ (∀ p, (Rect.ofSize c'.screenSize).contains p = true →
            t.output.pixel? c'.windows p = t.back.pixel? p
              ∨ ((∀ area ∈ areas, area.contains p = false) ∧ t.back.pixel? p = some .black
                ∧ t.output.pixel? c'.windows p = output.pixel? c.windows p))
          ∧ ∀ c'' areas', Run c'.draw c'' areas' →
            ∃ t', c''.target = some t' ∧ ∀ p, t'.output.pixel? c''.windows p = t'.back.pixel? p := by
  have made : Window.Reachable _ := ⟨1, 1, .rgb888, _, [.stroke (.clear .white)], rfl, rfl⟩
  have stored := (Reachable.create .fresh).step (.addWindow _ made)
  have set_up := (stored.step .newLayer).step (.modifyLayer 1 (·.setWindow 0))
  let fb : FrameBuffer := ⟨⟨2, 2, 10, .bgrx8888⟩, ⟨.replicate 20 255⟩, by decide, by decide⟩
  obtain ⟨c, c', areas, reachable, accepted, run, left, right⟩ :
      ∃ c c' areas, Reachable c ∧ (c.setOutput (.buffer fb)).2 = .ok ()
        ∧ Run (c.setOutput (.buffer fb)).1 c' areas
        ∧ c'.output? ⟨0, 1⟩ = some .black ∧ c'.output? ⟨1, 1⟩ = some .white :=
    ⟨_, _, _, set_up.step (.place 1 0), rfl,
      (Run.rest.step (.drawArea ⟨.origin, ⟨1, 2⟩⟩) trivial).step (.moveTo 1 ⟨1, 0⟩) trivial,
      by decide +kernel, by decide +kernel⟩
  exact ⟨c, .buffer fb, c', areas, reachable, trivial, accepted, run, left, right,
    output_mirrors_back reachable trivial accepted run⟩

end Compositor
end Overlay
