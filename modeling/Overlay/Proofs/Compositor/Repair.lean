import Overlay.Proofs.Compositor.Damage

/-!
This module contains the repair of the output after the stack of layers has changed. To put one layer
elsewhere in the stack, to hide it or to remove it shows only where its window lies, so that drawing that
place leaves the output as drawing all of the screen would.
-/

namespace Overlay
namespace Compositor

variable {c c' : Compositor} {t : Target} {id : LayerId} {l : Layer} {area : Rect}

def Settled (c : Compositor) : Prop := ∀ p, c.draw.output? p = c.output? p

theorem Restacking.apart (change : Restacking id c c') (apart : c.Apart t) : c'.Apart t :=
  fun id' l window found => apart id' l window (change.kept id' l found)

section

variable (sound : c.Sound) (bound : c.target = some t) (apart : c.Apart t) (settled : c.Settled)
  (found : c.layer? id = some l) (covers : l.bounds? c.windows = some area)
include sound bound apart settled found covers

theorem Restacking.settled_drawArea (change : Restacking id c c') : (c'.drawArea area).Settled := by
  have bound' : c'.target = some t := change.target.trans bound
  apply (sound.congr change.toSameScreen).settled_drawArea bound' (change.apart apart)
  intro p seen out
  rw [screenSize_congr change.toSameScreen] at seen
  obtain ⟨⟨_, x_lt⟩, _, y_lt⟩ := sound.small_of_screen bound seen
  -- Where the layer shows nothing, its place in the stack does not matter.
  have blank := LayerStack.shownBy?_outside found covers (by omega) (by omega) out
  rw [change.windows, change.unseen _ _ blank]
  exact (sound.settled_iff bound).mp settled p seen

theorem Restacking.settled_drawLayer (change : Restacking id c c') (stays : c'.layer? = c.layer?) :
    (c'.drawLayer id).Settled := by
  have found' : c'.layer? id = some l := by rw [stays, found]
  have covers' : l.bounds? c'.windows = some area := by rw [change.windows, covers]
  rw [drawLayer_of_layer? found' covers']
  exact change.settled_drawArea sound bound apart settled found covers

end

/-- If drawing all of the screen would change nothing, then it changes nothing either once one layer was put
elsewhere, hidden, brought to the front or removed, and the place of its window was drawn. -/
theorem settled_restacked (reachable : c.Reachable) (bound : c.target = some t) (apart : c.Apart t)
    (settled : c.Settled) (found : c.layer? id = some l) (covers : l.bounds? c.windows = some area) :
    (∀ height, ((c.place id height).drawLayer id).Settled)
      ∧ ((c.hide id).drawLayer id).Settled
      ∧ ((c.raise id).drawLayer id).Settled
      ∧ ((c.removeLayer id).drawArea area).Settled := by
  have sound := reachable.sound
  refine ⟨?_, ?_, ?_, ?_⟩
  . intro height
    exact (restacking_place c id height).settled_drawLayer sound bound apart settled found covers
      (layer?_place c id height)
  . exact (restacking_hide c id).settled_drawLayer sound bound apart settled found covers
      (layer?_hide c id)
  . exact (restacking_raise c id).settled_drawLayer sound bound apart settled found covers
      (layer?_raise c id)
  . exact (restacking_removeLayer c id).settled_drawArea sound bound apart settled found covers

theorem settled_restacked_overlapping :
    let l : Layer := ⟨1, ⟨-1, 0⟩, some 0, true⟩
    ∃ c t area, Reachable c ∧ c.target = some t ∧ c.Apart t ∧ c.Settled
      ∧ c.layer? 1 = some l ∧ l.bounds? c.windows = some area
      ∧ ¬(c.place 1 1).Settled
      ∧ (∀ height, ((c.place 1 height).drawLayer 1).Settled)
      ∧ ((c.hide 1).drawLayer 1).Settled
      ∧ ((c.raise 1).drawLayer 1).Settled
      ∧ ((c.removeLayer 1).drawArea area).Settled := by
  intro l
  have white : Window.Reachable _ := ⟨3, 1, .rgb888, _, [.stroke (.clear .white)], rfl, rfl⟩
  have black : Window.Reachable _ := ⟨2, 2, .rgb888, _, [], rfl, rfl⟩
  have stored := ((Reachable.create .fresh).step (.addWindow _ white)).step (.addWindow _ black)
  have below := (stored.step .newLayer).step
    (.modifyLayer 1 fun l => ((l.setWindow 0).moveTo ⟨-1, 0⟩).setDraggable true)
  have above := (below.step .newLayer).step (.modifyLayer 2 (·.setWindow 1))
  let fb : FrameBuffer :=
    ⟨⟨4, 3, 20, .bgrx8888⟩, Storage.zeros 60, by decide, Storage.size_zeros 60⟩
  have on_buffer := ((above.step (.place 1 0)).step (.place 2 1)).step (.setOutput (.buffer fb) trivial)
  obtain ⟨c, t, area, reachable, bound, found, covers, plain, before, after⟩ :
      ∃ c t area, Reachable c ∧ c.target = some t ∧ c.layer? 1 = some l
        ∧ l.bounds? c.windows = some area ∧ (∀ id, t.output ≠ .window id)
        ∧ (c.draw.place 1 1).output? .origin = some .black
        ∧ (c.draw.place 1 1).draw.output? .origin = some .white :=
    ⟨_, _, _, on_buffer, rfl, rfl, rfl, nofun, by decide +kernel, by decide +kernel⟩
  obtain ⟨t', redrawn, _⟩ := reachable.sound.redrawn_drawArea bound (.ofSize c.screenSize)
  have same := sameLayers_drawArea c (.ofSize c.screenSize)
  have apart : c.draw.Apart t' := fun _ _ id _ _ same => plain id ((redrawn.kind id).mp same)
  have drawn := reachable.step .draw
  have found' : c.draw.layer? 1 = some l := by rw [draw, same.layer?_eq, found]
  have covers' : l.bounds? c.draw.windows = some area := by rw [draw, same.bounds?_eq, covers]
  have settled : c.draw.Settled := reachable.sound.settled_draw bound fun _ _ id _ _ => plain id
  refine ⟨c.draw, t', area, drawn, redrawn.target, apart, settled, found', covers', ?_,
    settled_restacked drawn redrawn.target apart settled found' covers'⟩
  intro still_settled
  have at_origin := still_settled .origin
  rw [before, after] at at_origin
  cases at_origin

end Compositor
end Overlay
