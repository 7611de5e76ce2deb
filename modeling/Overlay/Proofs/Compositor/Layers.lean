import Overlay.Proofs.Compositor
import Overlay.Proofs.Layer.Proper

/-!
This module contains what the operations of a compositor do to its layers. Drawing does nothing to them,
and all but the making and the removing of a layer keep the layers that there are, with their numbers. What
becomes of one layer in the stack shows only where its window lies.
-/

namespace Overlay

theorem Windows.sizes_modify {f : Window → Window}
    (keeps : ∀ w, (f w).shadow.layout = w.shadow.layout) (windows : Windows) (id id' : WindowId) :
    (windows.modify id f)[id']?.map Window.size = windows[id']?.map Window.size := by
  have size : Window.size ∘ f = Window.size := by
    funext w
    rw [Function.comp_apply, Window.size, keeps, Window.size]
  rw [Array.getElem?_modify]
  split
  . rw [Option.map_map, size]
  . rfl

theorem Surface.sizes_present (s : Surface) (windows : Windows) (back : FrameBuffer) (target : Point)
    (area : Rect) (id : WindowId) :
    (s.paint windows fun s => back.copyTo s target area).2[id]?.map Window.size
      =
    windows[id]?.map Window.size := by
  cases s with
  | window shown =>
    apply Windows.sizes_modify
    intro w
    apply Canvas.Kept.copyTo (P := fun v : Window => v.shadow.layout = w.shadow.layout)
    . intro v x y row format same
      rw [Window.layout_copyRow, same]
    . rfl
  | _ => rfl

namespace Compositor

variable {c c' c'' : Compositor} {id : LayerId} {l : Layer}

structure SameLayers (c c' : Compositor) : Prop where
  stack : c'.stack = c.stack
  sizes : ∀ id : WindowId, c'.windows[id]?.map Window.size = c.windows[id]?.map Window.size

namespace SameLayers

theorem trans (h : SameLayers c c') (h' : SameLayers c' c'') : SameLayers c c'' where
  stack := h'.stack.trans h.stack
  sizes id := (h'.sizes id).trans (h.sizes id)

variable (same : SameLayers c c')
include same

theorem layer?_eq : c'.layer? = c.layer? := by
  funext id
  rw [layer?, same.stack, layer?]

theorem bounds?_eq (l : Layer) : l.bounds? c'.windows = l.bounds? c.windows := by
  have sizes : (l.window? c'.windows).map Window.size = (l.window? c.windows).map Window.size := by
    unfold Layer.window?
    cases l.window with
    | none => rfl
    | some window => exact same.sizes window
  have bounds : ∀ windows : Windows,
      l.bounds? windows = ((l.window? windows).map Window.size).map (Rect.mk l.position) := by
    intro windows
    rw [Layer.bounds?, Option.map_map]
    rfl
  rw [bounds, sizes, ← bounds]

end SameLayers

theorem sameLayers_post (c : Compositor) (notice : Log.Notice) : SameLayers c (c.post notice) :=
  ⟨rfl, fun _ => rfl⟩

theorem sameLayers_drawArea (c : Compositor) (area : Rect) : SameLayers c (c.drawArea area) := by
  unfold drawArea
  split
  . exact ⟨rfl, fun _ => rfl⟩
  . dsimp only
    split
    . exact ⟨rfl, fun _ => rfl⟩
    . exact ⟨rfl, Surface.sizes_present _ _ _ _ _⟩

theorem sameLayers_drawLayer (c : Compositor) (id : LayerId) : SameLayers c (c.drawLayer id) := by
  unfold drawLayer
  split
  . exact sameLayers_post c _
  . split
    . exact sameLayers_drawArea c _
    . exact ⟨rfl, fun _ => rfl⟩

theorem drawLayer_of_layer? (found : c.layer? id = some l) {area : Rect}
    (covers : l.bounds? c.windows = some area) : c.drawLayer id = c.drawArea area := by
  rw [drawLayer, found]
  dsimp only
  rw [covers]

theorem sameLayers_moveTo (found : c.layer? id = some l) (position : Point) :
    SameLayers (c.modifyLayer id (·.moveTo position)) (c.moveTo id position) := by
  rw [moveTo, found]
  exact sameLayers_drawArea ..

theorem moveTo_of_unknown (unknown : c.layer? id = none) (position : Point) :
    c.moveTo id position = c.refuse .move id := by
  rw [moveTo, unknown]

theorem order_moveTo (c : Compositor) (id : LayerId) (position : Point) :
    (c.moveTo id position).stack.order = c.stack.order := by
  cases found : c.layer? id with
  | none =>
    rw [moveTo_of_unknown found]
    rfl
  | some l =>
    rw [(sameLayers_moveTo found position).stack]
    rfl

theorem layer?_moveTo (c : Compositor) (id : LayerId) (position : Point) (id' : LayerId) :
    (c.moveTo id position).layer? id'
      =
    if id' = id then (c.layer? id').map (·.moveTo position) else c.layer? id' := by
  cases found : c.layer? id with
  | none =>
    rw [moveTo_of_unknown found]
    split
    . next same =>
      subst same
      rw [found]
      exact found
    . rfl
  | some l =>
    rw [(sameLayers_moveTo found position).layer?_eq]
    exact LayerStack.find?_modify (Layer.id_moveTo position) id'

theorem bounds?_moveTo (c : Compositor) (id : LayerId) (position : Point) (l : Layer) :
    l.bounds? (c.moveTo id position).windows = l.bounds? c.windows := by
  cases found : c.layer? id with
  | none =>
    rw [moveTo_of_unknown found]
    rfl
  | some _ => exact (sameLayers_moveTo found position).bounds?_eq l

theorem layer?_moveBy (c : Compositor) (id : LayerId) (delta : Point) (id' : LayerId) :
    (c.moveBy id delta).layer? id'
      =
    if id' = id then (c.layer? id').map (·.moveBy delta) else c.layer? id' := by
  rw [moveBy]
  cases found : c.layer? id with
  | none =>
    dsimp only
    split
    . next same =>
      subst same
      rw [found]
      exact found
    . rfl
  | some l =>
    dsimp only
    rw [layer?_moveTo]
    split
    . next same =>
      subst same
      rw [found]
      rfl
    . rfl

theorem bounds?_moveBy (c : Compositor) (id : LayerId) (delta : Point) (l : Layer) :
    l.bounds? (c.moveBy id delta).windows = l.bounds? c.windows := by
  unfold moveBy
  split
  . rfl
  . exact bounds?_moveTo c id _ l

theorem order_moveBy (c : Compositor) (id : LayerId) (delta : Point) :
    (c.moveBy id delta).stack.order = c.stack.order := by
  unfold moveBy
  split
  . rfl
  . exact order_moveTo c id _

theorem layer?_hide (c : Compositor) (id : LayerId) : (c.hide id).layer? = c.layer? := by
  unfold hide
  split <;> rfl

theorem layer?_removeLayer (c : Compositor) (id id' : LayerId) :
    (c.removeLayer id).layer? id' = if id' = id then none else c.layer? id' := by
  unfold removeLayer
  split
  . next unknown =>
    split
    . next same =>
      subst same
      exact unknown
    . rfl
  . exact LayerStack.find?_erase ..

theorem layer?_place (c : Compositor) (id : LayerId) (height : Coord) :
    (c.place id height).layer? = c.layer? := by
  unfold place
  split
  . rfl
  . split
    . exact layer?_hide c id
    . rfl

theorem layer?_raise (c : Compositor) (id : LayerId) : (c.raise id).layer? = c.layer? := by
  unfold raise
  split
  . rfl
  . split
    . exact layer?_place c id .greatest
    . rfl

theorem place_of_layer? (found : c.layer? id = some l) {height : Coord} (h : 0 ≤ height.val) :
    c.place id height = { c with stack := c.stack.place id height.toNat } := by
  rw [place, found]
  dsimp only
  rw [if_neg]
  rw [Coord.lt_def, Coord.val_zero]
  omega

theorem place_of_negative (found : c.layer? id = some l) {height : Coord} (h : height.val < 0) :
    c.place id height = { c with stack := c.stack.hide id } := by
  rw [place, found]
  dsimp only
  rw [if_pos, hide, found]
  rw [Coord.lt_def, Coord.val_zero]
  exact h

theorem layers_placeAndDraw {below above : List LayerId} {height : Coord} (found : c.layer? id = some l)
    (order : c.stack.order = below ++ above) (hidden : id ∉ c.stack.order)
    (value : height.val = below.length) :
    ((c.place id height).drawLayer id).stack.order = below ++ id :: above
      ∧ ((c.place id height).drawLayer id).layer? = c.layer? := by
  have drawn := sameLayers_drawLayer (c.place id height) id
  constructor
  . rw [drawn.stack, place_of_layer? found (by omega), Coord.toNat, value, Int.toNat_natCast]
    exact LayerStack.order_place_above order hidden
  . rw [drawn.layer?_eq, layer?_place]

theorem raise_of_layer? (found : c.layer? id = some l) (draggable : l.draggable = true)
    (visible : id ∈ c.stack.order) :
    c.raise id = { c with stack := c.stack.place id Coord.greatest.toNat } := by
  have shown : (c.height? id).isSome = true := by
    rw [height?, LayerStack.height?, List.findIdx?_isSome, List.any_eq_true]
    exact ⟨id, visible, beq_self_eq_true id⟩
  rw [raise, found]
  dsimp only
  rw [draggable, shown, Bool.and_self, if_pos rfl]
  exact place_of_layer? found (by decide)

theorem stack_setOutput (c : Compositor) (output : Surface) :
    (c.setOutput output).1.stack = c.stack := by
  unfold setOutput
  dsimp only
  split <;> rfl

inductive Rearranged : LayerStack → LayerStack → Prop where
  | same {s : LayerStack} : Rearranged s s
  | modify {s : LayerStack} (id : LayerId) {f : Layer → Layer} (keeps : ∀ l, (f l).id = l.id) :
    Rearranged s (s.modify id f)
  | hide {s : LayerStack} (id : LayerId) : Rearranged s (s.hide id)
  | place {s : LayerStack} (id : LayerId) (known : id ∈ s.ids) (height : Nat) :
    Rearranged s (s.place id height)
  | trans {s s' s'' : LayerStack} (first : Rearranged s s') (second : Rearranged s' s'') :
    Rearranged s s''

namespace Rearranged

variable {s s' : LayerStack}

theorem ids (change : Rearranged s s') : s'.ids = s.ids := by
  induction change with
  | same => rfl
  | modify id keeps => exact LayerStack.ids_modify keeps _ id
  | hide id => rfl
  | place id known height => rfl
  | trans first second ih ih' => exact ih'.trans ih

theorem lastId (change : Rearranged s s') : s'.lastId = s.lastId := by
  induction change with
  | trans first second ih ih' => exact ih'.trans ih
  | _ => rfl

theorem proper (change : Rearranged s s') (proper : s.Proper) : s'.Proper := by
  induction change with
  | same => exact proper
  | modify id keeps => exact proper.modify keeps id
  | hide id => exact proper.hide id
  | place id known height => exact proper.place known height
  | trans first second ih ih' => exact ih' (ih proper)

theorem nodup (change : Rearranged s s') (distinct : s.order.Nodup) : s'.order.Nodup := by
  induction change with
  | same => exact distinct
  | modify id keeps => exact distinct
  | hide id => exact distinct.erase id
  | place id known height => exact LayerStack.nodup_place distinct id height
  | trans first second ih ih' => exact ih' (ih distinct)

end Rearranged

theorem known_of_layer? (found : c.layer? id = some l) : id ∈ c.stack.ids := by
  rw [← LayerStack.isSome_find?]
  rw [layer?] at found
  rw [found]
  rfl

theorem unknown_of_layer? (missing : c.layer? id = none) : id ∉ c.stack.ids := by
  rw [← LayerStack.isSome_find?]
  rw [layer?] at missing
  rw [missing]
  exact Bool.false_ne_true

theorem ids_removeLayer (c : Compositor) (id : LayerId) :
    (c.removeLayer id).stack.ids = c.stack.ids.filter (· != id) := by
  unfold removeLayer
  split
  . next missing =>
    apply Eq.symm
    rw [refuse, post, List.filter_eq_self]
    intro id' known
    rw [bne_iff_ne]
    rintro rfl
    exact unknown_of_layer? missing known
  . exact LayerStack.ids_erase ..

theorem lastId_removeLayer (c : Compositor) (id : LayerId) :
    (c.removeLayer id).stack.lastId = c.stack.lastId := by
  unfold removeLayer
  split <;> rfl

theorem proper_removeLayer (proper : c.stack.Proper) (id : LayerId) :
    (c.removeLayer id).stack.Proper := by
  unfold removeLayer
  split
  . exact proper
  . exact proper.erase id

theorem SameLayers.rearranged (same : SameLayers c c') : Rearranged c.stack c'.stack := by
  rw [same.stack]
  exact .same

theorem rearranged_hide (c : Compositor) (id : LayerId) : Rearranged c.stack (c.hide id).stack := by
  unfold hide
  split
  . exact .same
  . exact .hide id

theorem rearranged_place (c : Compositor) (id : LayerId) (height : Coord) :
    Rearranged c.stack (c.place id height).stack := by
  unfold place
  split
  . exact .same
  . next l found =>
    split
    . exact rearranged_hide c id
    . exact .place id (known_of_layer? found) height.toNat

theorem rearranged_raise (c : Compositor) (id : LayerId) : Rearranged c.stack (c.raise id).stack := by
  unfold raise
  split
  . exact .same
  . split
    . exact rearranged_place c id .greatest
    . exact .same

theorem rearranged_moveTo (c : Compositor) (id : LayerId) (position : Point) :
    Rearranged c.stack (c.moveTo id position).stack := by
  cases found : c.layer? id with
  | none =>
    rw [moveTo_of_unknown found]
    exact .same
  | some l =>
    rw [(sameLayers_moveTo found position).stack]
    exact .modify id (Layer.id_moveTo position)

theorem rearranged_moveBy (c : Compositor) (id : LayerId) (delta : Point) :
    Rearranged c.stack (c.moveBy id delta).stack := by
  unfold moveBy
  split
  . exact .same
  . exact rearranged_moveTo c id _

/-- A change of the stack that makes no difference where a certain layer shows nothing. Of the layers some
may be gone, and what is drawn on is the same. -/
structure Restacking (id : LayerId) (c c' : Compositor) : Prop extends SameScreen c c' where
  kept : ∀ id' l, c'.layer? id' = some l → c.layer? id' = some l
  unseen : ∀ x y, c.stack.shownBy? c.windows x y id = none →
    c'.stack.shown? c.windows x y = c.stack.shown? c.windows x y

theorem restacking_hide (c : Compositor) (id : LayerId) : Restacking id c (c.hide id) where
  toSameScreen := sameScreen_hide c id
  kept id' l found := by
    rw [layer?_hide] at found
    exact found
  unseen x y blank := by
    unfold hide
    split
    . rfl
    . exact LayerStack.shown?_hide blank

theorem restacking_place (c : Compositor) (id : LayerId) (height : Coord) :
    Restacking id c (c.place id height) where
  toSameScreen := sameScreen_place c id height
  kept id' l found := by
    rw [layer?_place] at found
    exact found
  unseen x y blank := by
    unfold place
    split
    . rfl
    . split
      . exact (restacking_hide c id).unseen x y blank
      . exact LayerStack.shown?_place blank _

theorem restacking_raise (c : Compositor) (id : LayerId) : Restacking id c (c.raise id) where
  toSameScreen := sameScreen_raise c id
  kept id' l found := by
    rw [layer?_raise] at found
    exact found
  unseen x y blank := by
    unfold raise
    split
    . rfl
    . split
      . exact (restacking_place c id .greatest).unseen x y blank
      . rfl

theorem restacking_removeLayer (c : Compositor) (id : LayerId) :
    Restacking id c (c.removeLayer id) where
  toSameScreen := sameScreen_removeLayer c id
  kept id' l found := by
    rw [layer?_removeLayer] at found
    split at found
    . cases found
    . exact found
  unseen x y blank := by
    unfold removeLayer
    split
    . rfl
    . exact LayerStack.shown?_erase blank

theorem nodup_removeLayer (distinct : c.stack.order.Nodup) (id : LayerId) :
    (c.removeLayer id).stack.order.Nodup := by
  unfold removeLayer
  split
  . exact distinct
  . exact distinct.sublist List.filter_sublist

theorem Step.nodup (distinct : c.stack.order.Nodup) (next : Step c c') : c'.stack.order.Nodup := by
  cases next with
  | removeLayer id => exact nodup_removeLayer distinct id
  | hide id => exact (rearranged_hide c id).nodup distinct
  | place id height => exact (rearranged_place c id height).nodup distinct
  | raise id => exact (rearranged_raise c id).nodup distinct
  | moveTo id position => exact (rearranged_moveTo c id position).nodup distinct
  | moveBy id delta => exact (rearranged_moveBy c id delta).nodup distinct
  | drawArea area => exact (sameLayers_drawArea c area).rearranged.nodup distinct
  | drawLayer id => exact (sameLayers_drawLayer c id).rearranged.nodup distinct
  | draw => exact (sameLayers_drawArea c _).rearranged.nodup distinct
  | setOutput output whole =>
    rw [stack_setOutput]
    exact distinct
  | addWindow w made => exact distinct
  | editWindow id edit => exact distinct
  | paintOutput t bound output whole same => exact distinct
  | newLayer => exact distinct
  | modifyLayer id f => exact distinct
  | setLog log => exact distinct

theorem Reachable.nodup (reachable : c.Reachable) : c.stack.order.Nodup := by
  induction reachable with
  | create log => exact .nil
  | step _ next ih => exact next.nodup ih

end Compositor
end Overlay
