import Overlay.Proofs.Compositor.Damage
import Overlay.Proofs.Compositor.Hit

/-!
This module contains the agreement of the layer that is found at a point with the one that is seen there. The
search from the top and the drawing from the bottom come to the same layer, unless that layer has its key at
the point, or the one that is left out of the search is in the way.
-/

namespace Overlay
namespace Compositor

variable {c : Compositor} {t : Target} {id except : LayerId} {l : Layer} {w : Window} {p : Point}

def Unseen (c : Compositor) (id : LayerId) (p : Point) : Prop :=
  id ∉ c.stack.order ∨ ¬c.Holds id p
    ∨ ∃ l w key, c.layer? id = some l ∧ l.window? c.windows = some w ∧ w.key = some key
      ∧ w.pixel? (p - l.position) = some key

theorem shownBy?_of_layer? (hx : p.x.val < 2147483647) (hy : p.y.val < 2147483647)
    (found : c.layer? id = some l) (window : l.window? c.windows = some w) :
    c.stack.shownBy? c.windows p.x.val p.y.val id
      =
    if (Rect.mk l.position w.size).contains p then
      (w.pixel? (p - l.position)).bind w.unkeyed?
    else
      none := by
  have find : c.stack.find? id = some l := found
  rw [LayerStack.shownBy?, find, Option.bind_some, Layer.shown?, window, Option.bind_some, Window.shown?]
  simp only [← Rect.contains_iff_covers hx hy]
  rfl

theorem shownBy?_of_not_holds (hx : p.x.val < 2147483647) (hy : p.y.val < 2147483647)
    (missed : ¬c.Holds id p) : c.stack.shownBy? c.windows p.x.val p.y.val id = none := by
  rw [LayerStack.shownBy?]
  cases found : c.stack.find? id with
  | none => rfl
  | some l =>
    apply Layer.shown?_outside hx hy
    intro r bounds
    rw [← Bool.not_eq_true]
    intro covers
    apply missed
    rw [holds_iff, layer?, found, Option.any_some, bounds, Option.any_some]
    exact covers

theorem holds_of_isSome_shownBy? (hx : p.x.val < 2147483647) (hy : p.y.val < 2147483647)
    (shows : (c.stack.shownBy? c.windows p.x.val p.y.val id).isSome = true) : c.Holds id p := by
  apply Classical.byContradiction
  intro missed
  rw [shownBy?_of_not_holds hx hy missed] at shows
  cases shows

theorem Unseen.shownBy? (unseen : c.Unseen id p) (hx : p.x.val < 2147483647) (hy : p.y.val < 2147483647)
    (visible : id ∈ c.stack.order) : c.stack.shownBy? c.windows p.x.val p.y.val id = none := by
  rcases unseen with hidden | missed | ⟨l, w, key, found, window, keyed, has_key⟩
  . exact absurd visible hidden
  . exact shownBy?_of_not_holds hx hy missed
  . rw [shownBy?_of_layer? hx hy found window, has_key, Option.bind_some, Window.unkeyed?, if_pos keyed,
      ite_self]

theorem TopmostAt.shown? (topmost : c.TopmostAt p except id) (hx : p.x.val < 2147483647)
    (hy : p.y.val < 2147483647) (unseen : c.Unseen except p) {color : Color}
    (shown : c.stack.shownBy? c.windows p.x.val p.y.val id = some color) :
    c.stack.shown? c.windows p.x.val p.y.val = some color := by
  obtain ⟨below, above, order, uncovered⟩ := topmost.uncovered
  apply LayerStack.shown?_of_order order shown
  intro other mem
  by_cases left_out : other = except
  . subst left_out
    apply unseen.shownBy? hx hy
    rw [order]
    exact List.mem_append_right _ (List.mem_cons_of_mem _ mem)
  . exact shownBy?_of_not_holds hx hy (uncovered other mem left_out)

/-- What is found at a point of the screen. There is nothing only where no layer holds the point but the one
that is left out, and a layer that is found is the one that is seen there once the screen was drawn. -/
theorem layerAt?_seen (reachable : c.Reachable) (bound : c.target = some t)
    (on_screen : (Rect.ofSize c.screenSize).contains p = true) (except : LayerId) :
    (c.layerAt? p except = none ↔ ∀ id ∈ c.stack.order, id ≠ except → ¬c.Holds id p)
      ∧ ∀ l, c.layerAt? p except = some l →
        l.id ≠ except ∧ l.id ∈ c.stack.order ∧ c.layer? l.id = some l
          ∧ ∃ w color, l.window? c.windows = some w ∧ w.pixel? (p - l.position) = some color
            ∧ (w.key ≠ some color → c.Unseen except p → c.draw.output? p = some color) := by
  refine ⟨layerAt?_eq_none_iff, ?_⟩
  intro l hit
  obtain ⟨⟨_, x_lt⟩, _, y_lt⟩ := reachable.sound.small_of_screen bound on_screen
  have hx : p.x.val < 2147483647 := by omega
  have hy : p.y.val < 2147483647 := by omega
  obtain ⟨found, topmost⟩ := layerAt?_eq_some_iff.mp hit
  obtain ⟨l', w, found', window, covers⟩ := topmost.holds
  obtain rfl : l = l' := by
    rw [found, Option.some_inj] at found'
    exact found'
  have in_window : w.bounds.contains (p - l.position) = true :=
    Window.contains_clamp_sub ((Rect.contains_iff_covers hx hy).mp covers)
  obtain ⟨color, pixel⟩ := Option.isSome_iff_exists.mp
    ((LawfulCanvas.isSome_pixel? w (p - l.position) trivial).trans in_window)
  have pixel : w.pixel? (p - l.position) = some color := pixel
  refine ⟨topmost.apart, topmost.visible, found, w, color, window, pixel, ?_⟩
  intro unkeyed unseen
  have shown : c.stack.shownBy? c.windows p.x.val p.y.val l.id = some color := by
    rw [shownBy?_of_layer? hx hy found window, if_pos covers, pixel, Option.bind_some, Window.unkeyed?,
      if_neg unkeyed]
  rw [reachable.sound.output?_draw bound, if_pos on_screen, topmost.shown? hx hy unseen shown]
  rfl

theorem layerAt?_seen_under_cursor :
    let l : Layer := ⟨1, ⟨-1, 0⟩, some 0, true⟩
    ∃ c t, Reachable c ∧ c.target = some t ∧ (Rect.ofSize c.screenSize).contains ⟨1, 1⟩ = true
      ∧ c.Holds 2 ⟨1, 1⟩
      ∧ c.layerAt? ⟨1, 1⟩ 2 = some l
      ∧ ∃ w color, l.window? c.windows = some w ∧ w.pixel? (⟨1, 1⟩ - l.position) = some color
        ∧ c.draw.output? ⟨1, 1⟩ = some color := by
  intro l
  have white : Window.Reachable _ := ⟨3, 2, .rgb888, _, [.stroke (.clear .white)], rfl, rfl⟩
  have keyed : Window.Reachable _ := ⟨2, 2, .rgb888, _, [.setKey (some .black)], rfl, rfl⟩
  have stored := ((Reachable.create .fresh).step (.addWindow _ white)).step (.addWindow _ keyed)
  have below := (stored.step .newLayer).step
    (.modifyLayer 1 fun l => ((l.setWindow 0).moveTo ⟨-1, 0⟩).setDraggable true)
  have above := (below.step .newLayer).step (.modifyLayer 2 (·.setWindow 1))
  let fb : FrameBuffer :=
    ⟨⟨4, 3, 20, .bgrx8888⟩, Storage.zeros 60, by decide, Storage.size_zeros 60⟩
  have on_buffer := ((above.step (.place 1 0)).step (.place 2 1)).step (.setOutput (.buffer fb) trivial)
  obtain ⟨c, t, reachable, bound, on_screen, holds, unseen, hit, unkeyed⟩ :
      ∃ c t, Reachable c ∧ c.target = some t ∧ (Rect.ofSize c.screenSize).contains ⟨1, 1⟩ = true
        ∧ c.Holds 2 ⟨1, 1⟩ ∧ c.Unseen 2 ⟨1, 1⟩ ∧ c.layerAt? ⟨1, 1⟩ 2 = some l
        ∧ ∀ w, l.window? c.windows = some w → w.key = none :=
    ⟨_, _, on_buffer, rfl, by decide +kernel, ⟨_, _, rfl, rfl, by decide +kernel⟩,
      .inr (.inr ⟨_, _, .black, rfl, rfl, rfl, by decide +kernel⟩), by decide +kernel,
      by rintro _ ⟨⟩; rfl⟩
  obtain ⟨_, found_at⟩ := layerAt?_seen reachable bound on_screen 2
  obtain ⟨_, _, _, w, color, window, pixel, drawn⟩ := found_at l hit
  refine ⟨c, t, reachable, bound, on_screen, holds, hit, w, color, window, pixel, drawn ?_ unseen⟩
  rw [unkeyed w window]
  nofun

end Compositor
end Overlay
