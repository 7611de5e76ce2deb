import Overlay.Proofs.Compositor.Layers

/-!
This module contains compositors whose output is up to date: at each point it shows what the stack of
layers shows there. A change of the stack puts the output out of date only where the layer in question
was or is, so that drawing around that layer is enough.
-/

namespace Overlay

namespace Compositor

variable {c c' : Compositor} {background id : LayerId} {l : Layer} {area : Rect}

def output? (c : Compositor) (p : Point) : Option Color :=
  c.target.bind fun t => t.output.pixel? c.windows p

def CurrentOff (c : Compositor) (area : Rect) : Prop :=
  ∀ p, (Rect.ofSize c.screenSize).contains p = true → area.contains p = false →
    c.output? p = c.stack.shown? c.windows p.x.val p.y.val

def Current (c : Compositor) : Prop := c.CurrentOff .empty

theorem Current.off (current : c.Current) (area : Rect) : c.CurrentOff area := by
  intro p seen _
  exact current p seen rfl

structure Backed (c : Compositor) (background : LayerId) : Prop where
  sound : c.Sound
  plain : ∃ t, c.target = some t ∧ ∀ id, t.output ≠ .window id
  known : ∀ id l, c.layer? id = some l →
    id ≤ c.stack.lastId ∧ ∀ window, l.window = some window → window < c.windows.size
  full : ∃ l w, c.layer? background = some l ∧ l.position = .origin ∧ l.draggable = false
    ∧ l.window? c.windows = some w ∧ w.key = none ∧ w.size = c.screenSize
  visible : background ∈ c.stack.order

structure Restacked (c : Compositor) (background : LayerId) (stack : LayerStack) (c' : Compositor) :
    Prop where
  backed : c'.Backed background
  current : c'.Current
  stack : c'.stack = stack
  windows : c'.windows = c.windows
  screen : c'.screenSize = c.screenSize

theorem Restacked.trans {c'' : Compositor} {stack stack' : LayerStack}
    (h : Restacked c background stack c') (h' : Restacked c' background stack' c'') :
    Restacked c background stack' c'' where
  backed := h'.backed
  current := h'.current
  stack := h'.stack
  windows := h'.windows.trans h.windows
  screen := h'.screen.trans h.screen

theorem Restacked.layer?_eq {stack : LayerStack} (h : Restacked c background stack c') :
    c'.layer? = stack.find? := by
  funext id
  rw [layer?, h.stack]

theorem screenSize_congr (same : SameScreen c c') : c'.screenSize = c.screenSize := by
  rw [screenSize, screenSize, same.windows, same.target]

theorem output?_congr (same : SameScreen c c') (p : Point) : c'.output? p = c.output? p := by
  rw [output?, output?, same.windows, same.target]

theorem output?_of_target {t : Target} (bound : c.target = some t) (p : Point) :
    c.output? p = t.output.pixel? c.windows p := by
  rw [output?, bound, Option.bind_some]

theorem CurrentOff.restack (off : c.CurrentOff area) (same : SameScreen c c')
    (unseen : ∀ p, (Rect.ofSize c.screenSize).contains p = true → area.contains p = false →
      c'.stack.shown? c.windows p.x.val p.y.val = c.stack.shown? c.windows p.x.val p.y.val) :
    c'.CurrentOff area := by
  intro p seen out
  rw [screenSize_congr same] at seen
  rw [output?_congr same, same.windows, unseen p seen out]
  exact off p seen out

namespace Backed

variable (backed : c.Backed background)
include backed

theorem small_of_screen {p : Point} (seen : (Rect.ofSize c.screenSize).contains p = true) :
    (0 ≤ p.x.val ∧ p.x.val < 8192) ∧ 0 ≤ p.y.val ∧ p.y.val < 8192 := by
  obtain ⟨t, bound, _⟩ := backed.plain
  exact backed.sound.small_of_screen bound seen

theorem restack (same : SameScreen c c')
    (known : ∀ id l, c'.layer? id = some l →
      id ≤ c'.stack.lastId ∧ ∀ window, l.window = some window → window < c.windows.size)
    (kept : c'.layer? background = c.layer? background) (visible : background ∈ c'.stack.order) :
    c'.Backed background where
  sound := backed.sound.congr same
  plain := by
    rw [same.target]
    exact backed.plain
  known := by
    rw [same.windows]
    exact known
  full := by
    rw [same.windows, kept, screenSize_congr same]
    exact backed.full
  visible := visible

theorem isSome_shown? {p : Point} (seen : (Rect.ofSize c.screenSize).contains p = true) :
    (c.stack.shown? c.windows p.x.val p.y.val).isSome = true := by
  obtain ⟨l, w, found, position, _, window, unkeyed, size⟩ := backed.full
  rw [LayerStack.shown?_eq, List.findSome?_isSome_iff]
  refine ⟨background, List.mem_reverse.mpr backed.visible, ?_⟩
  have find : c.stack.find? background = some l := found
  rw [LayerStack.shownBy?, find, Option.bind_some, Layer.shown?, window, Option.bind_some, position,
    Window.shown?, if_pos, Window.bind_unkeyed? unkeyed]
  . have in_window : w.bounds.contains p = true := by
      rw [Window.bounds, size]
      exact seen
    have same : w.pixel? ⟨.clamp (p.x.val - Point.origin.x.val), .clamp (p.y.val - Point.origin.y.val)⟩
        = w.pixel? p := by
      have x_zero : Point.origin.x.val = 0 := rfl
      have y_zero : Point.origin.y.val = 0 := rfl
      rw [x_zero, y_zero, Int.sub_zero, Int.sub_zero, Coord.clamp_val, Coord.clamp_val]
    rw [same, ← Window.readable_pixel?, LawfulCanvas.isSome_pixel? w p trivial]
    exact in_window
  . rw [size, ← Rect.ofSize, ← Rect.contains_ofSize]
    exact seen

theorem post (current : c.Current) (notice : Log.Notice) :
    Restacked c background c.stack (c.post notice) where
  backed := backed.restack ⟨rfl, rfl⟩ backed.known rfl backed.visible
  current := current.restack ⟨rfl, rfl⟩ fun _ _ _ => rfl
  stack := rfl
  windows := rfl
  screen := rfl

theorem windows_drawArea (area : Rect) : (c.drawArea area).windows = c.windows := by
  obtain ⟨t, bound, plain⟩ := backed.plain
  obtain ⟨t', redrawn, _⟩ := backed.sound.redrawn_drawArea bound area
  apply Array.ext_getElem?
  intro id
  exact redrawn.windows id (plain id)

theorem repaint (area : Rect) :
    (c.drawArea area).Backed background ∧ (c.drawArea area).stack = c.stack
      ∧ (c.drawArea area).screenSize = c.screenSize := by
  obtain ⟨t, bound, plain⟩ := backed.plain
  obtain ⟨t', redrawn, sound⟩ := backed.sound.redrawn_drawArea bound area
  refine ⟨?_, redrawn.stack, redrawn.screen⟩
  constructor
  . exact sound
  . refine ⟨t', redrawn.target, ?_⟩
    intro id same
    exact plain id ((redrawn.kind id).mp same)
  . intro id l found
    rw [layer?, redrawn.stack] at found
    rw [backed.windows_drawArea, redrawn.stack]
    exact backed.known id l found
  . rw [backed.windows_drawArea, layer?, redrawn.stack, redrawn.screen]
    exact backed.full
  . rw [redrawn.stack]
    exact backed.visible

theorem drawArea (off : c.CurrentOff area) : Restacked c background c.stack (c.drawArea area) := by
  obtain ⟨backed', stack, screen⟩ := backed.repaint area
  have windows := backed.windows_drawArea area
  refine ⟨backed', ?_, stack, windows, screen⟩
  obtain ⟨t, bound, _⟩ := backed.plain
  obtain ⟨t', redrawn, _⟩ := backed.sound.redrawn_drawArea bound area
  intro p seen _
  rw [screen] at seen
  rw [output?_of_target redrawn.target, stack, windows]
  have covered := backed.isSome_shown? seen
  -- Within the area the stack was drawn, elsewhere nothing has changed.
  cases within : area.contains p with
  | true =>
    have inside := redrawn.output p within seen
    rw [windows] at inside
    rw [inside, redrawn.back p within seen]
    rw [Option.isSome_iff_exists] at covered
    obtain ⟨color, shown⟩ := covered
    rw [shown]
    rfl
  | false =>
    have outside := redrawn.outside p within
    rw [windows] at outside
    rw [outside]
    have before := off p seen within
    rw [output?_of_target bound] at before
    exact before

theorem draw : Restacked c background c.stack c.draw := by
  apply backed.drawArea
  intro p seen out
  rw [seen] at out
  cases out

theorem shownBy?_outside {s : LayerStack} (found : s.find? id = some l)
    (covers : l.bounds? c.windows = some area) {p : Point}
    (seen : (Rect.ofSize c.screenSize).contains p = true) (out : area.contains p = false) :
    s.shownBy? c.windows p.x.val p.y.val id = none := by
  obtain ⟨⟨_, x_lt⟩, _, y_lt⟩ := backed.small_of_screen seen
  exact LayerStack.shownBy?_outside found covers (by omega) (by omega) out

theorem isSome_output? (p : Point) :
    (c.output? p).isSome = (Rect.ofSize c.screenSize).contains p := by
  obtain ⟨t, bound, _⟩ := backed.plain
  rw [output?_of_target bound]
  exact backed.sound.isSome_output bound p

theorem shown?_of_output? (current : c.Current) {p : Point} {color : Color}
    (seen : c.output? p = some color) : c.stack.shown? c.windows p.x.val p.y.val = some color := by
  have on_screen : (Rect.ofSize c.screenSize).contains p = true := by
    rw [← backed.isSome_output?, seen]
    rfl
  rw [← current p on_screen rfl, seen]

theorem output?_draw (current : c.Current) (p : Point) : c.draw.output? p = c.output? p := by
  have drawn := backed.draw
  cases old : c.output? p with
  | none =>
    rw [← Option.not_isSome_iff_eq_none, drawn.backed.isSome_output?, drawn.screen,
      ← backed.isSome_output?, old]
    exact Bool.false_ne_true
  | some color =>
    have on_screen : (Rect.ofSize c.draw.screenSize).contains p = true := by
      rw [drawn.screen, ← backed.isSome_output?, old]
      rfl
    rw [drawn.current p on_screen rfl, drawn.stack, drawn.windows]
    exact backed.shown?_of_output? current old

theorem moveLayer (other : id ≠ background) (position : Point) :
    (c.modifyLayer id (·.moveTo position)).Backed background := by
  have same : SameScreen c (c.modifyLayer id (·.moveTo position)) := ⟨rfl, rfl⟩
  apply backed.restack same
  . intro id' l' found'
    have find' : (c.stack.modify id (·.moveTo position)).find? id' = some l' := found'
    rw [LayerStack.find?_modify (Layer.id_moveTo position)] at find'
    split at find'
    . obtain ⟨l'', found'', rfl⟩ := Option.map_eq_some_iff.mp find'
      exact backed.known id' l'' found''
    . exact backed.known id' l' find'
  . exact LayerStack.find?_moveTo_other (Ne.symm other) position
  . exact backed.visible

theorem restackAndDraw (found : c.layer? id = some l) (covers : l.bounds? c.windows = some area)
    (off : c.CurrentOff area) (change : Restacking id c c') (layers : c'.layer? = c.layer?)
    (lastId : c'.stack.lastId = c.stack.lastId) (visible : background ∈ c'.stack.order) :
    Restacked c background c'.stack (c'.drawLayer id) := by
  have backed' : c'.Backed background := by
    apply backed.restack change.toSameScreen
    . intro id l found
      rw [layers] at found
      rw [lastId]
      exact backed.known id l found
    . rw [layers]
    . exact visible
  have off' : c'.CurrentOff area := by
    apply off.restack change.toSameScreen
    intro p seen out
    -- Where the layer is not, its height does not matter.
    apply change.unseen
    exact backed.shownBy?_outside found covers seen out
  have found' : c'.layer? id = some l := by rw [layers, found]
  have covers' : l.bounds? c'.windows = some area := by rw [change.windows, covers]
  have result := backed'.drawArea off'
  rw [drawLayer_of_layer? found' covers']
  exact {
    backed := result.backed
    current := result.current
    stack := result.stack
    windows := result.windows.trans change.windows
    screen := result.screen.trans (screenSize_congr change.toSameScreen) }

theorem placeAndDraw (found : c.layer? id = some l) (covers : l.bounds? c.windows = some area)
    (off : c.CurrentOff area) {height : Coord} (h : 0 ≤ height.val) :
    Restacked c background (c.stack.place id height.toNat) ((c.place id height).drawLayer id) := by
  have stack : (c.place id height).stack = c.stack.place id height.toNat := by
    rw [place_of_layer? found h]
  have visible : background ∈ (c.place id height).stack.order := by
    rw [stack]
    exact LayerStack.mem_order_place backed.visible id _
  rw [← stack]
  exact backed.restackAndDraw found covers off (restacking_place c id height) (layer?_place ..)
    (rearranged_place ..).lastId visible

theorem placeAnywhereAndDraw (found : c.layer? id = some l) (covers : l.bounds? c.windows = some area)
    (off : c.CurrentOff area) (other : background ≠ id) (height : Coord) :
    ∃ stack, Restacked c background stack ((c.place id height).drawLayer id)
      ∧ stack.find? = c.stack.find? := by
  by_cases h : 0 ≤ height.val
  . exact ⟨_, backed.placeAndDraw found covers off h, rfl⟩
  . have stack : (c.place id height).stack = c.stack.hide id := by
      rw [place_of_negative found (by omega)]
    have visible : background ∈ (c.place id height).stack.order := by
      rw [stack]
      exact (List.mem_erase_of_ne other).mpr backed.visible
    refine ⟨_, ?_, layer?_place c id height⟩
    exact backed.restackAndDraw found covers off (restacking_place c id height) (layer?_place ..)
      (rearranged_place ..).lastId visible

omit backed in
theorem contains_hull_of_near {w : Window} {left covered p q r : Point}
    (p_small : (0 ≤ p.x.val ∧ p.x.val < 8192) ∧ 0 ≤ p.y.val ∧ p.y.val < 8192)
    (q_small : (0 ≤ q.x.val ∧ q.x.val < 8192) ∧ 0 ≤ q.y.val ∧ q.y.val < 8192)
    (at_p : (Rect.mk left w.size).contains p = true) (at_q : (Rect.mk covered w.size).contains q = true)
    (h : (Rect.mk left w.size).contains r = true ∨ (Rect.mk covered w.size).contains r = true) :
    ((Rect.mk left w.size).hull ⟨covered, w.size⟩).contains r = true := by
  have width_le : w.width ≤ 8192 := w.shadow.valid.width_le
  have height_le : w.height ≤ 8192 := w.shadow.valid.height_le
  rw [Rect.contains_iff_covers (by omega) (by omega), Rect.covers_mk, Window.val_size_x,
    Window.val_size_y] at at_p at_q
  -- Either place begins less than a window's size before the screen, so that no edge saturates.
  apply Rect.contains_hull h
  . rw [Rect.right, Rect.right, Coord.val_add, Coord.val_add, Window.val_size_x]
    dsimp only
    omega
  . rw [Rect.bottom, Rect.bottom, Coord.val_add, Coord.val_add, Window.val_size_y]
    dsimp only
    omega

theorem moveTo (current : c.Current) (found : c.layer? id = some l) (other : id ≠ background)
    {w : Window} (window : l.window? c.windows = some w) {position p q : Point}
    (p_seen : (Rect.ofSize c.screenSize).contains p = true)
    (q_seen : (Rect.ofSize c.screenSize).contains q = true)
    (at_p : (Rect.mk l.position w.size).contains p = true)
    (at_q : (Rect.mk position w.size).contains q = true) :
    Restacked c background (c.stack.modify id (·.moveTo position)) (c.moveTo id position) := by
  have left := Layer.bounds?_of_window? window
  have covered : (l.moveTo position).bounds? c.windows = some ⟨position, w.size⟩ :=
    Layer.bounds?_of_window? window
  rw [Compositor.moveTo, found]
  dsimp only
  rw [left, covered]
  dsimp only
  have same : SameScreen c (c.modifyLayer id (·.moveTo position)) := ⟨rfl, rfl⟩
  have backed' := backed.moveLayer other position
  have off : (c.modifyLayer id (·.moveTo position)).CurrentOff
      ((Rect.mk l.position w.size).hull ⟨position, w.size⟩) := by
    apply (current.off _).restack same
    intro r seen out
    have near := fun h => contains_hull_of_near (r := r) (backed.small_of_screen p_seen)
      (backed.small_of_screen q_seen) at_p at_q h
    rw [out] at near
    -- Where the layer neither was nor is, its position does not matter.
    apply LayerStack.shown?_modify (Layer.id_moveTo position)
    . apply backed.shownBy?_outside found left seen
      rw [← Bool.not_eq_true]
      exact fun h => Bool.false_ne_true (near (.inl h))
    . apply backed.shownBy?_outside (LayerStack.find?_moveTo_self found position) covered seen
      rw [← Bool.not_eq_true]
      exact fun h => Bool.false_ne_true (near (.inr h))
  have result := backed'.drawArea off
  exact {
    backed := result.backed
    current := result.current
    stack := result.stack
    windows := result.windows
    screen := result.screen }

theorem newLayer (current : c.Current) {f : Layer → Layer} (keeps : ∀ l, (f l).id = l.id)
    {window : WindowId} (shows : ∀ l, (f l).window = some window) (known : window < c.windows.size) :
    let new := c.stack.lastId + 1
    let c' := c.newLayer.1.modifyLayer new f
    c'.Backed background
      ∧ (∀ id, c'.layer? id = if id = new then some (f (.blank new)) else c.layer? id)
      ∧ ∀ r, (f (.blank new)).bounds? c.windows = some r → c'.CurrentOff r := by
  dsimp only
  have same : SameScreen c (c.newLayer.1.modifyLayer (c.stack.lastId + 1) f) := ⟨rfl, rfl⟩
  have fresh : c.stack.find? (c.stack.lastId + 1) = none := by
    rw [← Option.not_isSome_iff_eq_none, Option.isSome_iff_exists]
    rintro ⟨l, found⟩
    exact Nat.not_succ_le_self _ (backed.known _ l found).1
  have layers : ∀ id, (c.newLayer.1.modifyLayer (c.stack.lastId + 1) f).layer? id
      = if id = c.stack.lastId + 1 then some (f (.blank (c.stack.lastId + 1))) else c.layer? id :=
    LayerStack.find?_addModify keeps fresh
  refine ⟨?_, layers, ?_⟩
  . apply backed.restack same
    . intro id l found
      show id ≤ c.stack.lastId + 1 ∧ _
      rw [layers] at found
      split at found
      . next hit =>
        cases found
        refine ⟨Nat.le_of_eq hit, ?_⟩
        intro window' h
        rw [shows] at h
        cases h
        exact known
      . have before := backed.known id l found
        exact ⟨Nat.le_succ_of_le before.1, before.2⟩
    . rw [layers, if_neg]
      rintro rfl
      obtain ⟨l, _, found, _⟩ := backed.full
      rw [layer?, fresh] at found
      contradiction
    . exact backed.visible
  . intro r covers
    apply (current.off r).restack same
    intro p seen out
    have layer := layers (c.stack.lastId + 1)
    rw [if_pos rfl] at layer
    exact LayerStack.shown?_addModify keeps fresh (backed.shownBy?_outside layer covers seen out)

theorem setWindows (current : c.Current) {windows : Windows}
    (sound : ({ c with windows := windows } : Compositor).Sound) (grown : c.windows.size ≤ windows.size)
    (kept : ∀ id l, c.layer? id = some l → l.window? windows = l.window? c.windows) :
    ({ c with windows := windows } : Compositor).Backed background
      ∧ ({ c with windows := windows } : Compositor).Current := by
  obtain ⟨t, bound, plain⟩ := backed.plain
  have screen : ({ c with windows := windows } : Compositor).screenSize = c.screenSize := by
    rw [screenSize, screenSize]
    dsimp only
    rw [bound]
    exact Surface.inspect_extent_plain plain windows c.windows
  constructor
  . constructor
    . exact sound
    . exact ⟨t, bound, plain⟩
    . intro id l found
      have before := backed.known id l found
      refine ⟨before.1, ?_⟩
      intro window h
      exact Nat.lt_of_lt_of_le (before.2 window h) grown
    . obtain ⟨l, w, found, position, fixed, window, unkeyed, size⟩ := backed.full
      refine ⟨l, w, found, position, fixed, ?_, unkeyed, size.trans screen.symm⟩
      exact (kept _ l found).trans window
    . exact backed.visible
  . intro p seen _
    rw [screen] at seen
    have before := current p seen rfl
    rw [output?_of_target bound] at before
    rw [output?_of_target (c := { c with windows := windows }) bound, LayerStack.shown?_setWindows kept,
      ← before]
    exact Surface.pixel?_plain plain windows c.windows p

end Backed
end Compositor
end Overlay
