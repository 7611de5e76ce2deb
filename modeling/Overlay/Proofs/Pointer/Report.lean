import Overlay.Proofs.Pointer.Controller

/-!
This module contains what one report does, whatever the compositor that it is applied to. It turns a drag
on or off in only a few ways, and moves only the cursor and the layer that is dragged, which therefore
stays under the cursor where it was taken.
-/

namespace Overlay

namespace Pointer

open Compositor

/-- Whether a point lies on a screen of the given size, of which at least the origin counts as inside. -/
def Within (screenSize p : Point) : Prop :=
  (0 ≤ p.x.val ∧ p.x.val ≤ max (screenSize.x.val - 1) 0)
    ∧ 0 ≤ p.y.val ∧ p.y.val ≤ max (screenSize.y.val - 1) 0

theorem within_confine (screenSize p : Point) : Within screenSize (confine screenSize p) := by
  have := screenSize.x.le_greatest
  have := screenSize.y.le_greatest
  simp only [Within, confine, Point.confine, Point.origin, Point.x_min, Point.x_max, Point.x_sub,
    Point.y_min, Point.y_max, Point.y_sub, Coord.val_min, Coord.val_max, Coord.val_sub, Coord.val_zero,
    Coord.val_one]
  constructor <;> omega

theorem Within.small {screenSize p : Point} (within : Within screenSize p) :
    (0 ≤ p.x.val ∧ p.x.val < 2147483647) ∧ 0 ≤ p.y.val ∧ p.y.val < 2147483647 := by
  have := screenSize.x.le_greatest
  have := screenSize.y.le_greatest
  unfold Within at within
  omega

variable {pointer : Pointer} {c c' : Compositor} {e : PointerEvent} {position : Point}

def Coherent (pointer : Pointer) : Prop :=
  ∀ id, pointer.drag = .dragging id → pointer.held.left = true ∧ id ≠ pointer.cursor

/-- What holds between a pointer and any compositor that it alone works on. -/
structure Steady (pointer : Pointer) (c : Compositor) : Prop where
  within : Within pointer.screenSize pointer.position
  coherent : pointer.Coherent
  holds : ∀ id, pointer.drag = .dragging id → c.Holds id pointer.position

structure Takes (pointer : Pointer) (c : Compositor) (e : PointerEvent) (position : Point)
    (id : LayerId) : Prop where
  up : pointer.held.left = false
  down : e.buttons.left = true
  draggable : ∃ l, c.layer? id = some l ∧ l.draggable = true
  topmost : c.TopmostAt position pointer.cursor id

inductive Turn (pointer : Pointer) (c : Compositor) (e : PointerEvent) (position : Point) :
    Drag → Prop where
  | rest (idle : pointer.drag = .idle) (free : ∀ id, ¬Takes pointer c e position id) :
    Turn pointer c e position .idle
  | press {id : LayerId} (idle : pointer.drag = .idle) (takes : Takes pointer c e position id) :
    Turn pointer c e position (.dragging id)
  | hold {id : LayerId} (dragged : pointer.drag = .dragging id) (down : e.buttons.left = true) :
    Turn pointer c e position (.dragging id)
  | release {id : LayerId} (dragged : pointer.drag = .dragging id) (up : e.buttons.left = false) :
    Turn pointer c e position .idle

def Begins (before after : Drag) (id : LayerId) : Prop := before = .idle ∧ after = .dragging id

structure Handled (pointer : Pointer) (c : Compositor) (e : PointerEvent) (pointer' : Pointer)
    (c' : Compositor) : Prop where
  cursor : pointer'.cursor = pointer.cursor
  screen : pointer'.screenSize = pointer.screenSize
  held : pointer'.held = e.buttons
  position : pointer'.position = confine pointer.screenSize (pointer.position + e.displacement)
  turn : Turn pointer c e pointer'.position pointer'.drag
  order : ((∀ id, ¬Begins pointer.drag pointer'.drag id) ∧ c'.stack.order = c.stack.order)
    ∨ ∃ id, Begins pointer.drag pointer'.drag id
      ∧ c'.stack.order = (c.stack.place id Coord.greatest.toNat).order
  layers : ∀ id, c'.layer? id
    =
    if id = pointer.cursor then
      (c.layer? id).map (·.moveTo pointer'.position)
    else if pointer.drag = .dragging id ∧ pointer'.drag = .dragging id then
      (c.layer? id).map (·.moveBy (pointer'.position - pointer.position))
    else
      c.layer? id
  bounds : ∀ l : Layer, l.bounds? c'.windows = l.bounds? c.windows

section

variable (landed : position = confine pointer.screenSize (pointer.position + e.displacement))
include landed

theorem handled_still {drag : Drag} (turn : Turn pointer c e position drag)
    (still : ∀ id, pointer.drag = .dragging id → drag ≠ .dragging id)
    (order : ((∀ id, ¬Begins pointer.drag drag id) ∧ c'.stack.order = c.stack.order)
      ∨ ∃ id, Begins pointer.drag drag id
        ∧ c'.stack.order = (c.stack.place id Coord.greatest.toNat).order)
    (layers : c'.layer? = (c.moveTo pointer.cursor position).layer?)
    (bounds : ∀ l : Layer,
      l.bounds? c'.windows = l.bounds? (c.moveTo pointer.cursor position).windows) :
    Handled pointer c e { pointer with position, held := e.buttons, drag } c' where
  cursor := rfl
  screen := rfl
  held := rfl
  position := landed
  turn := turn
  order := order
  layers := by
    intro id
    rw [layers, layer?_moveTo]
    split
    . rfl
    . rw [if_neg]
      rintro ⟨before, after⟩
      exact still id before after
  bounds := by
    intro l
    rw [bounds, bounds?_moveTo]

theorem handled_idle (idle : pointer.drag = .idle) (free : ∀ id, ¬Takes pointer c e position id) :
    Handled pointer c e { pointer with position, held := e.buttons }
      (c.moveTo pointer.cursor position) := by
  apply handled_still landed
  . rw [idle]
    exact .rest idle free
  . intro id dragged
    rw [idle] at dragged
    cases dragged
  . refine .inl ⟨?_, order_moveTo c pointer.cursor position⟩
    rintro id ⟨_, after⟩
    rw [idle] at after
    cases after
  . rfl
  . intro l
    rfl

end

namespace Coherent

variable (coherent : pointer.Coherent)
include coherent

theorem drag_idle (up : pointer.held.left = false) : pointer.drag = .idle :=
  drag_idle_of_up (fun id dragged => (coherent id dragged).1) up

section

variable (landed : position = confine pointer.screenSize (pointer.position + e.displacement))
include landed

theorem handled_press (up : pointer.held.left = false) (down : e.buttons.left = true) :
    let pressed := ({ pointer with position, held := e.buttons } : Pointer).press
      (c.moveTo pointer.cursor position)
    Handled pointer c e pressed.1 pressed.2 := by
  have idle := coherent.drag_idle up
  unfold press
  dsimp only
  split
  . next missed =>
    apply handled_idle landed idle
    rintro id ⟨_, _, ⟨l, found, draggable⟩, topmost⟩
    have same := LayerStack.id_of_find? found
    subst same
    have found' : (c.moveTo pointer.cursor position).layer? l.id = some l := by
      rw [layer?_moveTo, if_neg topmost.apart, found]
    have under := layerAt?_eq_some_iff.mpr ⟨found', (topmostAt_moveTo position).mpr topmost⟩
    rw [under, Option.filter_some, if_pos draggable] at missed
    cases missed
  . next l under =>
    obtain ⟨under, draggable⟩ := Option.filter_eq_some_iff.mp under
    obtain ⟨found, topmost⟩ := layerAt?_eq_some_iff.mp under
    rw [topmostAt_moveTo] at topmost
    rw [layer?_moveTo, if_neg topmost.apart] at found
    have posted := sameLayers_post (c.moveTo pointer.cursor position) (.dragStart l.id position)
    have posted_order : ((c.moveTo pointer.cursor position).post (.dragStart l.id position)).stack.order
        = c.stack.order := by
      rw [posted.stack, order_moveTo]
    have posted_found : ((c.moveTo pointer.cursor position).post (.dragStart l.id position)).layer? l.id
        = some l := by
      rw [posted.layer?_eq, layer?_moveTo, if_neg topmost.apart, found]
    generalize (c.moveTo pointer.cursor position).post (.dragStart l.id position) = posted_c at *
    have drawn := sameLayers_drawLayer (posted_c.raise l.id) l.id
    have raised := raise_of_layer? posted_found draggable (by rw [posted_order]; exact topmost.visible)
    apply handled_still landed
    . exact .press idle ⟨up, down, ⟨l, found, draggable⟩, topmost⟩
    . intro id dragged
      rw [idle] at dragged
      cases dragged
    . refine .inr ⟨l.id, ⟨idle, rfl⟩, ?_⟩
      rw [drawn.stack, raised]
      exact LayerStack.order_place_congr posted_order l.id _
    . rw [drawn.layer?_eq, layer?_raise, posted.layer?_eq]
    . intro l'
      rw [drawn.bounds?_eq, (sameScreen_raise posted_c l.id).windows, posted.bounds?_eq]

theorem handled_follow (held : pointer.held.left = true) (down : e.buttons.left = true) :
    let moved : Pointer := { pointer with position, held := e.buttons }
    Handled pointer c e moved
      (moved.follow (c.moveTo pointer.cursor position) (position - pointer.position)) := by
  unfold follow
  dsimp only
  split
  . next idle =>
    apply handled_idle landed idle
    intro id takes
    rw [takes.up] at held
    cases held
  . next id dragged =>
    have free := (coherent id dragged).2
    exact {
      cursor := rfl
      screen := rfl
      held := rfl
      position := landed
      turn := by
        dsimp only
        rw [dragged]
        exact .hold dragged down
      order := by
        refine .inl ⟨?_, ?_⟩
        . rintro id' ⟨idle, _⟩
          rw [idle] at dragged
          cases dragged
        . rw [order_moveBy, order_moveTo]
      layers := by
        intro id'
        dsimp only
        rw [layer?_moveBy, layer?_moveTo, dragged]
        by_cases at_cursor : id' = pointer.cursor
        . rw [if_pos at_cursor, if_pos at_cursor, if_neg]
          rintro rfl
          exact free at_cursor
        . rw [if_neg at_cursor, if_neg at_cursor]
          by_cases hit : id' = id
          . subst hit
            rw [if_pos rfl, if_pos ⟨rfl, rfl⟩]
          . rw [if_neg hit, if_neg]
            rintro ⟨same, _⟩
            cases same
            exact hit rfl
      bounds := by
        intro l
        rw [bounds?_moveBy, bounds?_moveTo] }

end

theorem handled (e : PointerEvent) :
    Handled pointer c e (pointer.handle c e).1 (pointer.handle c e).2 := by
  unfold Pointer.handle
  dsimp only
  generalize landed : confine pointer.screenSize (pointer.position + e.displacement) = position at *
  replace landed := landed.symm
  have free : e.buttons.left = false → ∀ id, ¬Takes pointer c e position id := by
    intro up id takes
    rw [takes.down] at up
    cases up
  split
  . next up down => exact coherent.handled_press landed up down
  . next held down => exact coherent.handled_follow landed held down
  . next held up =>
    unfold release
    dsimp only
    split
    . next idle => exact handled_idle landed idle (free up)
    . next id dragged =>
      have posted := sameLayers_post (c.moveTo pointer.cursor position) (.dragEnd id)
      apply handled_still landed
      . exact .release dragged up
      . intro id' _
        nofun
      . refine .inl ⟨nofun, ?_⟩
        rw [posted.stack, order_moveTo]
      . exact posted.layer?_eq
      . exact posted.bounds?_eq
  . next up still_up => exact handled_idle landed (coherent.drag_idle up) (free still_up)

end Coherent

theorem rearranged_handle (pointer : Pointer) (c : Compositor) (e : PointerEvent) :
    Rearranged c.stack (pointer.handle c e).2.stack := by
  unfold Pointer.handle
  dsimp only
  generalize confine pointer.screenSize (pointer.position + e.displacement) = position
  have moved := rearranged_moveTo c pointer.cursor position
  generalize c.moveTo pointer.cursor position = c' at *
  split
  . unfold press
    dsimp only
    split
    . exact moved
    . next l _ =>
      have posted := moved.trans (sameLayers_post c' (.dragStart l.id position)).rearranged
      have raised := posted.trans (rearranged_raise _ l.id)
      exact raised.trans (sameLayers_drawLayer _ l.id).rearranged
  . unfold follow
    dsimp only
    split
    . exact moved
    . next id _ => exact moved.trans (rearranged_moveBy c' id _)
  . unfold release
    dsimp only
    split
    . exact moved
    . next id _ => exact moved.trans (sameLayers_post c' (.dragEnd id)).rearranged
  . exact moved

def offset? (pointer : Pointer) (c : Compositor) (id : LayerId) : Option (Int × Int) :=
  (c.layer? id).map fun l =>
    (l.position.x.val - pointer.position.x.val, l.position.y.val - pointer.position.y.val)

namespace Handled

variable {pointer' : Pointer} {id : LayerId}

section

variable (handled : Handled pointer c e pointer' c')
include handled

theorem within : Within pointer.screenSize pointer'.position := by
  rw [handled.position]
  exact within_confine ..

theorem begins_iff (idle : pointer.drag = .idle) :
    pointer'.drag = .dragging id ↔ Takes pointer c e pointer'.position id := by
  have turn := handled.turn
  constructor
  . intro after
    rw [after] at turn
    cases turn with
    | press _ takes => exact takes
    | hold dragged _ =>
      rw [idle] at dragged
      cases dragged
  . intro takes
    generalize pointer'.drag = drag at *
    cases turn with
    | rest _ free => exact absurd takes (free id)
    | press _ takes' => exact congrArg Drag.dragging (takes'.topmost.unique takes.topmost)
    | hold dragged _ =>
      rw [idle] at dragged
      cases dragged
    | release dragged _ =>
      rw [idle] at dragged
      cases dragged

theorem ends_iff (before : pointer.drag = .dragging id) :
    pointer'.drag = .idle ↔ e.buttons.left = false := by
  have turn := handled.turn
  generalize pointer'.drag = drag at *
  constructor
  . rintro rfl
    cases turn with
    | rest idle _ =>
      rw [idle] at before
      cases before
    | release _ up => exact up
  . intro up
    cases turn with
    | rest _ _ => rfl
    | press idle _ =>
      rw [idle] at before
      cases before
    | hold _ down =>
      rw [up] at down
      cases down
    | release _ _ => rfl

theorem lasts {id' : LayerId} (before : pointer.drag = .dragging id)
    (after : pointer'.drag = .dragging id') : id' = id := by
  have turn := handled.turn
  rw [after] at turn
  cases turn with
  | press idle _ =>
    rw [idle] at before
    cases before
  | hold dragged _ =>
    rw [dragged] at before
    cases before
    rfl

theorem layer?_cursor :
    c'.layer? pointer.cursor = (c.layer? pointer.cursor).map (·.moveTo pointer'.position) := by
  rw [handled.layers, if_pos rfl]

theorem layer?_free (other : id ≠ pointer.cursor) (free : pointer.drag ≠ .dragging id) :
    c'.layer? id = c.layer? id := by
  rw [handled.layers, if_neg other, if_neg]
  rintro ⟨dragged, _⟩
  exact free dragged

theorem perm_order : c'.stack.order.Perm c.stack.order := by
  rcases handled.order with ⟨_, same⟩ | ⟨id, ⟨idle, after⟩, order⟩
  . rw [same]
  . rw [order]
    have visible := ((handled.begins_iff idle).mp after).topmost.visible
    exact (LayerStack.perm_place _ _ _).trans (List.perm_cons_erase visible).symm

end

theorem keeps_coherent (handled : Handled pointer c e pointer' c') (coherent : pointer.Coherent) :
    pointer'.Coherent := by
  intro id after
  have turn := handled.turn
  rw [after] at turn
  rw [handled.held, handled.cursor]
  cases turn with
  | press _ takes => exact ⟨takes.down, takes.topmost.apart⟩
  | hold before down => exact ⟨down, (coherent id before).2⟩

variable (steady : pointer.Steady c)
  (handled : Handled pointer c e pointer' c')
include steady handled

theorem carried (before : pointer.drag = .dragging id) (after : pointer'.drag = .dragging id) :
    pointer'.offset? c' id = pointer.offset? c id ∧ c'.Holds id pointer'.position := by
  have free := (steady.coherent id before).2
  obtain ⟨l, w, found, window, covers⟩ := steady.holds id before
  have p_small := steady.within.small
  have q_small := handled.within.small
  have moved := handled.layers id
  rw [if_neg free, if_pos ⟨before, after⟩, found, Option.map_some] at moved
  constructor
  . obtain ⟨x, y⟩ := val_follow p_small q_small covers
    rw [offset?, offset?, moved, found]
    exact congrArg some (Prod.ext x y)
  . have bounds : (l.moveBy (pointer'.position - pointer.position)).bounds? c.windows
        = some ⟨l.position + (pointer'.position - pointer.position), w.size⟩ :=
      Layer.bounds?_of_window? window
    rw [holds_iff, moved, Option.any_some, handled.bounds, bounds, Option.any_some]
    exact contains_follow p_small q_small covers

theorem keeps_steady : pointer'.Steady c' where
  within := by
    rw [handled.screen]
    exact handled.within
  coherent := handled.keeps_coherent steady.coherent
  holds := by
    intro id after
    have turn := handled.turn
    rw [after] at turn
    cases turn with
    | press idle takes =>
      rw [holds_congr _ handled.bounds]
      . exact takes.topmost.holds
      . rw [handled.layers, if_neg takes.topmost.apart, if_neg]
        rintro ⟨before, _⟩
        rw [idle] at before
        cases before
    | hold before down => exact (handled.carried steady before after).2

end Handled

end Pointer
end Overlay
