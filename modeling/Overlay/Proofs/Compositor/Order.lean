import Overlay.Proofs.Compositor.Seen

/-!
This module contains the part of the order of a stack that can be seen. Layers whose windows nowhere overlap
on the screen may change places, whatever lies between them, and each area is drawn to the same bytes.
-/

namespace Overlay

section

variable {α : Type} {l l' : List α} {a b : α} {q : α → Bool}

theorem eq_of_either_order (distinct : l.Nodup) (before : [a, b].Sublist l) (after : [b, a].Sublist l) :
    a = b := by
  induction l with
  | nil => cases before
  | cons x l ih =>
    rw [List.nodup_cons] at distinct
    rw [List.sublist_cons_iff] at before after
    rcases before with before | ⟨_, ⟨⟩, before⟩
    . rcases after with after | ⟨_, ⟨⟩, _⟩
      . exact ih distinct.2 before after
      . exact absurd (before.mem (List.mem_cons_of_mem _ List.mem_cons_self)) distinct.1
    . rcases after with after | ⟨_, ⟨⟩, _⟩
      . exact absurd (after.mem (List.mem_cons_of_mem _ List.mem_cons_self)) distinct.1
      . rfl

theorem filter_eq_of_order_kept (distinct : l.Nodup) (perm : l'.Perm l)
    (kept : ∀ a b, q a = true → q b = true → [a, b].Sublist l → [a, b].Sublist l') :
    l'.filter q = l.filter q := by
  have antisymm : ∀ a b, a ∈ l'.filter q → b ∈ l.filter q →
      [a, b].Sublist l' → [b, a].Sublist l' → a = b := by
    intro a b _ _ before after
    exact eq_of_either_order (perm.nodup_iff.mpr distinct) before after
  have ordered' : (l'.filter q).Pairwise fun a b => [a, b].Sublist l' := by
    rw [List.pairwise_iff_forall_sublist]
    intro a b before
    exact before.trans List.filter_sublist
  have ordered : (l.filter q).Pairwise fun a b => [a, b].Sublist l' := by
    rw [List.pairwise_iff_forall_sublist]
    intro a b before
    have first := (List.mem_filter.mp (before.mem List.mem_cons_self)).2
    have second := (List.mem_filter.mp (before.mem (List.mem_cons_of_mem _ List.mem_cons_self))).2
    exact kept a b first second (before.trans List.filter_sublist)
  exact List.Perm.eq_of_pairwise antisymm ordered' ordered (perm.filter q)

end

namespace Compositor

variable {c c' : Compositor} {t : Target} {p : Point}

structure Reordered (c c' : Compositor) : Prop extends SameScreen c c' where
  layers : c'.layer? = c.layer?
  perm : c'.stack.order.Perm c.stack.order
  kept : ∀ a b p, (Rect.ofSize c.screenSize).contains p = true → c.Holds a p → c.Holds b p →
    [a, b].Sublist c.stack.order → [a, b].Sublist c'.stack.order

theorem Reordered.shown?_eq (reordered : Reordered c c') (distinct : c.stack.order.Nodup)
    (on_screen : (Rect.ofSize c.screenSize).contains p = true) (hx : p.x.val < 2147483647)
    (hy : p.y.val < 2147483647) :
    c'.stack.shown? c.windows p.x.val p.y.val = c.stack.shown? c.windows p.x.val p.y.val := by
  have find : c'.stack.find? = c.stack.find? := reordered.layers
  have same : c'.stack.shownBy? c.windows p.x.val p.y.val
      = c.stack.shownBy? c.windows p.x.val p.y.val := by
    funext id
    rw [LayerStack.shownBy?, LayerStack.shownBy?, find]
  -- Only the layers that show a colour at the point matter, and of these no two have changed places.
  have filtered : c'.stack.order.filter (fun id => (c.stack.shownBy? c.windows p.x.val p.y.val id).isSome)
      = c.stack.order.filter (fun id => (c.stack.shownBy? c.windows p.x.val p.y.val id).isSome) := by
    apply filter_eq_of_order_kept distinct reordered.perm
    intro a b shows_a shows_b
    exact reordered.kept a b p on_screen (holds_of_isSome_shownBy? hx hy shows_a)
      (holds_of_isSome_shownBy? hx hy shows_b)
  rw [LayerStack.shown?_eq, LayerStack.shown?_eq, same, ← topmost_filter_isSome, filtered,
    topmost_filter_isSome]

theorem compose_congr (sync : Windows.InSync c.windows) (windows : c'.windows = c.windows)
    {back : FrameBuffer}
    (same : ∀ p, back.bounds.contains p = true →
      c'.stack.shown? c.windows p.x.val p.y.val = c.stack.shown? c.windows p.x.val p.y.val)
    (area : Rect) : c'.compose back area = c.compose back area := by
  have drawn := encoded_compose sync back area
  have drawn' := encoded_compose (c := c') (by rw [windows]; exact sync) back area
  apply drawn'.unique (drawn.congr _)
  intro x y hx hy
  obtain ⟨p, x_val, y_val, inside⟩ := back.valid.exists_point hx hy
  have same := same p inside
  rw [x_val, y_val] at same
  rw [windows, same]

theorem drawArea_congr (screen : SameScreen c c') (composed : ∀ t area, c.target = some t →
    c'.compose t.back area = c.compose t.back area) (area : Rect) :
    SameScreen (c.drawArea area) (c'.drawArea area) := by
  cases bound : c.target with
  | none =>
    have bound' := screen.target.trans bound
    rw [drawArea, bound, drawArea, bound']
    exact screen
  | some t =>
    have bound' := screen.target.trans bound
    cases empty : (area.inter t.back.bounds).isEmpty with
    | true =>
      rw [drawArea_of_isEmpty bound empty, drawArea_of_isEmpty bound' empty]
      exact screen
    | false =>
      rw [drawArea_of_target bound empty, drawArea_of_target bound' empty]
      dsimp only
      rw [composed t _ bound, screen.windows]
      exact ⟨rfl, rfl⟩

theorem Reordered.drawArea (reordered : Reordered c c') (sound : c.Sound)
    (distinct : c.stack.order.Nodup) (area : Rect) : SameScreen (c.drawArea area) (c'.drawArea area) := by
  apply drawArea_congr reordered.toSameScreen
  intro t area bound
  apply compose_congr sound.in_sync reordered.windows
  intro p inside
  rw [← sound.screen_eq bound] at inside
  obtain ⟨⟨_, x_lt⟩, _, y_lt⟩ := sound.small_of_screen bound inside
  exact reordered.shown?_eq distinct inside (by omega) (by omega)

def placeAll (c : Compositor) (moves : List (LayerId × Coord)) : Compositor :=
  moves.foldl (fun c move => c.place move.1 move.2) c

theorem kept_placeAll (c : Compositor) (moves : List (LayerId × Coord)) :
    SameScreen c (c.placeAll moves) ∧ (c.placeAll moves).layer? = c.layer? := by
  induction moves generalizing c with
  | nil => exact ⟨⟨rfl, rfl⟩, rfl⟩
  | cons move moves ih =>
    obtain ⟨screen, layers⟩ := ih (c.place move.1 move.2)
    have placed := sameScreen_place c move.1 move.2
    exact ⟨⟨screen.windows.trans placed.windows, screen.target.trans placed.target⟩,
      layers.trans (layer?_place ..)⟩

/-- If layers are put at heights such that in the end the same ones are visible, and any two that overlap
somewhere on the screen are in the same order, then each area is drawn as it would have been without that: the
output, the back buffer and the windows are then the same to the last byte. -/
theorem drawArea_placeAll (reachable : c.Reachable) (moves : List (LayerId × Coord))
    (perm : (c.placeAll moves).stack.order.Perm c.stack.order)
    (kept : ∀ a b p, (Rect.ofSize c.screenSize).contains p = true → c.Holds a p → c.Holds b p →
      [a, b].Sublist c.stack.order → [a, b].Sublist (c.placeAll moves).stack.order)
    (area : Rect) : SameScreen (c.drawArea area) ((c.placeAll moves).drawArea area) := by
  obtain ⟨screen, layers⟩ := kept_placeAll c moves
  have reordered : Reordered c (c.placeAll moves) := ⟨screen, layers, perm, kept⟩
  exact reordered.drawArea reachable.sound reachable.nodup area

theorem drawArea_placeAll_side_by_side :
    ∃ c, Reachable c ∧ c.stack.order = [1, 2, 3] ∧ (c.placeAll [(2, 5)]).stack.order = [1, 3, 2]
      ∧ c.draw.output? ⟨1, 0⟩ = some .white
      ∧ ∀ area, SameScreen (c.drawArea area) ((c.placeAll [(2, 5)]).drawArea area) := by
  have black : Window.Reachable _ := ⟨4, 3, .rgb888, _, [], rfl, rfl⟩
  have white : Window.Reachable _ := ⟨2, 1, .rgb888, _, [.stroke (.clear .white)], rfl, rfl⟩
  have stored := ((Reachable.create .fresh).step (.addWindow _ black)).step (.addWindow _ white)
  have first := (stored.step .newLayer).step (.modifyLayer 1 (·.setWindow 0))
  have second := (first.step .newLayer).step (.modifyLayer 2 (·.setWindow 1))
  have third := (second.step .newLayer).step (.modifyLayer 3 fun l => (l.setWindow 1).moveTo ⟨2, 0⟩)
  have stacked := ((third.step (.place 1 0)).step (.place 2 1)).step (.place 3 2)
  let fb : FrameBuffer :=
    ⟨⟨4, 3, 20, .bgrx8888⟩, Storage.zeros 60, by decide, Storage.size_zeros 60⟩
  have on_buffer := stacked.step (.setOutput (.buffer fb) trivial)
  obtain ⟨c, t, reachable, bound, order, order', left, right, drawn⟩ :
      ∃ c t, Reachable c ∧ c.target = some t ∧ c.stack.order = [1, 2, 3]
        ∧ (c.placeAll [(2, 5)]).stack.order = [1, 3, 2]
        ∧ (c.layer? 2).bind (·.bounds? c.windows) = some ⟨⟨0, 0⟩, ⟨2, 1⟩⟩
        ∧ (c.layer? 3).bind (·.bounds? c.windows) = some ⟨⟨2, 0⟩, ⟨2, 1⟩⟩
        ∧ c.draw.output? ⟨1, 0⟩ = some .white :=
    ⟨_, _, on_buffer, rfl, rfl, rfl, by decide +kernel, by decide +kernel, by decide +kernel⟩
  refine ⟨c, reachable, order, order', drawn, drawArea_placeAll reachable _ ?_ ?_⟩
  . rw [order, order']
    decide
  . intro a b p on_screen
    have places : [1, 2, 3].Pairwise fun a b => [a, b].Sublist [1, 3, 2] ∨ a = 2 ∧ b = 3 := by decide
    rw [order, order']
    intro holds_a holds_b before
    rcases List.pairwise_iff_forall_sublist.mp places before with kept | ⟨rfl, rfl⟩
    . exact kept
    . obtain ⟨⟨_, x_lt⟩, _, y_lt⟩ := reachable.sound.small_of_screen bound on_screen
      rw [holds_iff_bounds? left, Rect.contains_iff_covers (by omega) (by omega), Rect.covers_mk] at holds_a
      rw [holds_iff_bounds? right, Rect.contains_iff_covers (by omega) (by omega), Rect.covers_mk] at holds_b
      simp only [Coord.val_ofNat] at holds_a holds_b
      omega

end Compositor
end Overlay
