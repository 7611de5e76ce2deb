import Overlay.Proofs.Desktop.Calls
import Overlay.Proofs.Desktop.Start

/-!
This module contains the stack of layers of a desktop: the background, above it the windows, of which a
report brings at most one to the front, and on top the cursor at the pointer.
-/

namespace Overlay

namespace Desktop

open Compositor

/-- A desktop that shows the given layers of windows, lowest first. -/
structure Arranged (d : Desktop) (windows : List LayerId) : Prop extends Intact d where
  order : d.compositor.stack.order = d.background :: (windows ++ [d.cursor])
  base : ∃ l, d.compositor.layer? d.background = some l ∧ l.position = .origin ∧ l.draggable = false
  undragged : d.pointer.drag ≠ .dragging d.background
  top : ∃ l, d.compositor.layer? d.cursor = some l ∧ l.position = d.pointer.position

def Reorders (d d' : Desktop) (windows : List LayerId) : Prop :=
  ((∀ id, ¬Pointer.Begins d.pointer.drag d'.pointer.drag id) ∧ d'.Arranged windows)
    ∨ ∃ id ∈ windows, Pointer.Begins d.pointer.drag d'.pointer.drag id
      ∧ d'.Arranged (windows.erase id ++ [id])

namespace Arranged

variable {d : Desktop} {windows : List LayerId} {e : PointerEvent} (arranged : d.Arranged windows)
include arranged

theorem background_apart : d.background ∉ windows ∧ d.background ≠ d.cursor := by
  have distinct := arranged.proper.order_distinct
  rw [arranged.order, List.nodup_cons, List.mem_append, List.mem_singleton, not_or] at distinct
  exact distinct.1

theorem cursor_apart : d.cursor ∉ d.background :: windows := by
  have distinct := arranged.proper.order_distinct
  rw [arranged.order, ← List.cons_append, List.nodup_append] at distinct
  intro mem
  exact distinct.2.2 _ mem _ (List.mem_singleton.mpr rfl) rfl

theorem erase_cursor : d.compositor.stack.order.erase d.cursor = d.background :: windows := by
  rw [arranged.order, ← List.cons_append, List.erase_append_right _ arranged.cursor_apart,
    List.erase_cons_head, List.append_nil]

theorem erase_window {id : LayerId} (mem : id ∈ windows) :
    d.compositor.stack.order.erase id = d.background :: windows.erase id ++ [d.cursor] := by
  have apart : d.background ≠ id := by
    rintro rfl
    exact arranged.background_apart.1 mem
  rw [arranged.order, List.erase_cons_tail, List.erase_append_left _ mem]
  . rfl
  . rw [beq_iff_eq]
    exact apart

theorem still {d' : Desktop} (still : Still d d') : d'.Arranged windows := by
  obtain ⟨intact, same⟩ := arranged.toIntact.still still
  have layers : d'.compositor.layer? = d.compositor.layer? := by
    funext id
    rw [layer?, still.stack, layer?]
  refine ⟨intact, ?_, ?_, ?_, ?_⟩
  . rw [still.stack, still.background, same]
    exact arranged.order
  . rw [layers, still.background]
    exact arranged.base
  . rw [still.pointer, still.background]
    exact arranged.undragged
  . rw [layers, same, still.pointer]
    exact arranged.top

theorem layers_addWindow (few : windows.length < LayerStack.maxHeight) (window : WindowId)
    (position : Point) :
    let new := d.compositor.stack.lastId + 1
    let c := (d.addWindow window position).1.compositor
    c.stack.order = d.background :: (windows ++ [new] ++ [d.cursor])
      ∧ ∀ id, id ≠ new → c.layer? id = d.compositor.layer? id := by
  have keeps : ∀ l : Layer, (((l.setWindow window).moveTo position).setDraggable true).id = l.id :=
    fun _ => rfl
  have layers := LayerStack.find?_addModify keeps arranged.proper.find?_fresh
  have new := layers (d.compositor.stack.lastId + 1)
  rw [if_pos rfl] at new
  have hidden := arranged.proper.hidden_of_unknown arranged.proper.fresh
  have below : d.compositor.stack.order = (d.background :: windows) ++ [d.cursor] := arranged.order
  have height := LayerStack.height?_of_order below arranged.cursor_apart
  have value : (Coord.wrap (d.background :: windows).length).val = (d.background :: windows).length :=
    LayerStack.val_wrap_eq_iff.mpr few
  unfold Desktop.addWindow
  dsimp only
  generalize hc : d.compositor.newLayer.1.modifyLayer d.compositor.newLayer.2
    (fun l => ((l.setWindow window).moveTo position).setDraggable true) = c
  obtain ⟨order, found⟩ : c.stack.order = d.compositor.stack.order
      ∧ c.layer? = (d.compositor.stack.add.modify (d.compositor.stack.lastId + 1)
        fun l => ((l.setWindow window).moveTo position).setDraggable true).find? := by
    subst hc
    exact ⟨rfl, rfl⟩
  rw [← found] at new layers
  rw [← order] at below hidden
  rw [height?, LayerStack.height?, order, ← LayerStack.height?, height, Option.getD_some]
  obtain ⟨placed, kept⟩ := layers_placeAndDraw new below hidden value
  constructor
  . rw [List.append_assoc]
    exact placed
  . intro id old
    exact (congrFun kept id).trans ((layers id).trans (if_neg old))

theorem addWindow (few : windows.length < LayerStack.maxHeight) (window : WindowId) (position : Point) :
    (d.addWindow window position).1.Arranged (windows ++ [(d.addWindow window position).2]) := by
  obtain ⟨order, layers⟩ := arranged.layers_addWindow few window position
  have old : ∀ id, id ∈ d.compositor.stack.order → id ≠ d.compositor.stack.lastId + 1 := by
    rintro id visible rfl
    exact arranged.proper.fresh (arranged.proper.known _ visible)
  rw [arranged.order] at old
  refine ⟨arranged.toIntact.addWindow window position, order, ?_, arranged.undragged, ?_⟩
  . show ∃ l, (d.addWindow window position).1.compositor.layer? d.background = some l ∧ _
    rw [layers _ (old _ List.mem_cons_self)]
    exact arranged.base
  . show ∃ l, (d.addWindow window position).1.compositor.layer? d.cursor = some l ∧ _
    rw [layers _ (old _ (List.mem_cons_of_mem _ (List.mem_append_right _ (List.mem_singleton.mpr rfl))))]
    exact arranged.top

section

variable {pointer : Pointer} {c : Compositor} (handled : d.pointer.Handled d.compositor e pointer c)
include handled

theorem undragged_handled : pointer.drag ≠ .dragging d.background := by
  intro after
  obtain ⟨base, found, _, fixed⟩ := arranged.base
  cases before : d.pointer.drag with
  | idle =>
    obtain ⟨l, found', draggable⟩ := ((handled.begins_iff before).mp after).draggable
    rw [found] at found'
    cases found'
    rw [fixed] at draggable
    cases draggable
  | dragging id =>
    rw [← handled.lasts before after] at before
    exact arranged.undragged before

theorem mem_of_begins {id : LayerId} (begins : Pointer.Begins d.pointer.drag pointer.drag id) :
    id ∈ windows := by
  obtain ⟨idle, after⟩ := begins
  -- What a press takes hold of may be dragged, unlike the background.
  have topmost := ((handled.begins_iff idle).mp after).topmost
  have visible := topmost.visible
  rw [arranged.order, List.mem_cons, List.mem_append, List.mem_singleton] at visible
  rcases visible with rfl | mem | rfl
  . exact absurd after (arranged.undragged_handled handled)
  . exact mem
  . exact absurd rfl topmost.apart

theorem order_handled (few : windows.length < LayerStack.maxHeight) :
    ((∀ id, ¬Pointer.Begins d.pointer.drag pointer.drag id)
        ∧ c.stack.order.erase d.cursor = d.background :: windows)
      ∨ ∃ id ∈ windows, Pointer.Begins d.pointer.drag pointer.drag id
        ∧ c.stack.order.erase d.cursor = d.background :: (windows.erase id ++ [id]) := by
  rcases handled.order with ⟨none_begins, same⟩ | ⟨id, begins, raised⟩
  . rw [same]
    exact .inl ⟨none_begins, arranged.erase_cursor⟩
  . have mem := arranged.mem_of_begins handled begins
    have front := arranged.erase_window mem
    have some_shown := List.length_pos_of_mem mem
    have tall : (d.compositor.stack.order.erase id).length ≤ Coord.greatest.toNat := by
      show _ ≤ LayerStack.maxHeight
      rw [front, List.length_append, List.length_cons, List.length_erase_of_mem mem,
        List.length_singleton]
      omega
    have free : d.cursor ∉ d.background :: windows.erase id := by
      intro visible
      exact arranged.cursor_apart (List.cons_subset_cons _ List.erase_subset visible)
    refine .inr ⟨id, mem, begins, ?_⟩
    rw [raised, LayerStack.order_place_top tall, front, List.append_assoc,
      List.erase_append_right _ free, List.singleton_append, List.erase_cons_head]
    rfl

end

theorem handlePointer (few : windows.length < LayerStack.maxHeight) (e : PointerEvent) :
    Reorders d (d.handlePointer e) windows := by
  have short : (d.compositor.stack.order.erase d.cursor).length ≤ LayerStack.maxHeight := by
    rw [arranged.erase_cursor]
    exact few
  obtain ⟨c, handled, layers, order⟩ := arranged.toIntact.exists_handled short e
  have same : (d.handlePointer e).cursor = d.cursor := handled.cursor
  have build : ∀ windows' : List LayerId, c.stack.order.erase d.cursor = d.background :: windows' →
      (d.handlePointer e).Arranged windows' := by
    intro windows' below
    refine ⟨arranged.toIntact.handlePointer e, ?_, ?_, arranged.undragged_handled handled, ?_⟩
    . rw [order, below, same]
      rfl
    . rw [layers]
      show ∃ l, c.layer? d.background = some l ∧ _
      rw [handled.layer?_free arranged.background_apart.2 arranged.undragged]
      exact arranged.base
    . obtain ⟨l, found, _⟩ := arranged.top
      have moved := handled.layer?_cursor
      refine ⟨l.moveTo (d.handlePointer e).pointer.position, ?_, rfl⟩
      rw [same, layers, cursor, moved]
      exact congrArg _ found
  rcases arranged.order_handled handled few with ⟨none_begins, kept⟩ | ⟨id, mem, begins, raised⟩
  . exact .inl ⟨none_begins, build _ kept⟩
  . exact .inr ⟨id, mem, begins, build _ raised⟩

end Arranged

theorem arranged_drawn {c : Compositor} {background : LayerId} {base l : Layer} (pointer : Pointer)
    (proper : c.stack.Proper) (order : c.stack.order = [background, pointer.cursor])
    (base_found : c.layer? background = some base) (origin : base.position = .origin)
    (fixed : base.draggable = false) (found : c.layer? pointer.cursor = some l)
    (idle : pointer.drag = .idle) (notice : Log.Notice) (options : Options) :
    Arranged ⟨(c.moveTo pointer.cursor pointer.position).draw.post notice, pointer, background, options⟩
      [] := by
  have change := rearranged_moveTo c pointer.cursor pointer.position
  have layers := layer?_moveTo c pointer.cursor pointer.position
  have order' := order_moveTo c pointer.cursor pointer.position
  generalize c.moveTo pointer.cursor pointer.position = c' at *
  have drawn : SameLayers c' (c'.draw.post notice) :=
    (sameLayers_drawArea c' _).trans (sameLayers_post c'.draw notice)
  have apart : background ≠ pointer.cursor := by
    have distinct := proper.order_distinct
    rw [order, List.nodup_cons, List.mem_singleton] at distinct
    exact distinct.1
  refine ⟨⟨?_, ?_, ?_⟩, ?_, ⟨base, ?_, origin, fixed⟩, ?_, ⟨l.moveTo pointer.position, ?_, rfl⟩⟩
  . show LayerStack.Proper (c'.draw.post notice).stack
    rw [drawn.stack]
    exact change.proper proper
  . intro id dragged
    rw [idle] at dragged
    cases dragged
  . show pointer.cursor ∈ (c'.draw.post notice).stack.ids
    rw [drawn.stack, change.ids]
    exact known_of_layer? found
  . show (c'.draw.post notice).stack.order = _
    rw [drawn.stack, order', order]
    rfl
  . show (c'.draw.post notice).layer? background = _
    rw [drawn.layer?_eq, layers, if_neg apart, base_found]
  . show pointer.drag ≠ _
    rw [idle]
    nofun
  . show (c'.draw.post notice).layer? pointer.cursor = _
    rw [drawn.layer?_eq, layers, if_pos rfl, found]
    rfl

theorem proper_showWindow {c : Compositor} (proper : c.stack.Proper) (w : Window) (position : Point) :
    (showWindow c w position).1.stack.Proper :=
  LayerStack.Proper.modify (f := fun l => (l.setWindow c.windows.size).moveTo position) proper.add
    (fun _ => rfl) _

theorem arranged_curtain {c : Compositor} (fresh : c.stack = .empty) (base cursor : Window)
    (position size : Point) (notice : Log.Notice) (options : Options) :
    let pointer := Pointer.create 2 size position
    let c := ((curtain c base cursor position).moveTo 2 pointer.position).draw.post notice
    Arranged ⟨c, pointer, 1, options⟩ [] := by
  have none_yet : c.stack.Proper := by
    rw [fresh]
    exact .empty
  have shown := proper_showWindow (proper_showWindow none_yet base .origin) cursor position
  have proper : (curtain c base cursor position).stack.Proper :=
    ((rearranged_place _ 1 0).trans (rearranged_place _ 2 1)).proper shown
  dsimp only
  apply arranged_drawn (Pointer.create 2 size position) proper
  . rw [curtain_eq fresh]
    rfl
  . rw [curtain_eq fresh]
    rfl
  . rfl
  . rfl
  . rw [curtain_eq fresh]
    rfl
  . rfl

theorem arranged_start {windows : Windows} {log : Log.Logger} {output : Surface} {options : Options}
    {d : Desktop} (up : start windows log output options = .ok d) : d.Arranged [] := by
  unfold start at up
  dsimp only at up
  split at up
  . cases up
  . next c made =>
    have fresh := (target_setOutput made).1
    split at up
    . cases up
    . split at up
      . cases up
      . next cursor _ =>
        obtain ⟨base_id, cursor_id⟩ := showWindow_ids fresh _ cursor options.cursor
        rw [base_id, cursor_id] at up
        cases up
        exact arranged_curtain fresh _ cursor options.cursor c.screenSize _ options

structure History where
  desktop : Desktop
  added : List LayerId

namespace History

def begin (d : Desktop) : History := ⟨d, []⟩

def perform (h : History) (call : Call) : History :=
  let (desktop, id) := h.desktop.perform call
  ⟨desktop, h.added ++ id.toList⟩

def performAll (h : History) (calls : List Call) : History := calls.foldl perform h

theorem added_le (h : History) (calls : List Call) :
    h.added.length ≤ (h.performAll calls).added.length := by
  induction calls generalizing h with
  | nil => exact Nat.le_refl _
  | cons call calls ih =>
    apply Nat.le_trans _ (ih (h.perform call))
    show h.added.length ≤ (h.added ++ (h.desktop.perform call).2.toList).length
    rw [List.length_append]
    exact Nat.le_add_right ..

structure Shows (start : Desktop) (h : History) (windows : List LayerId) : Prop where
  background : h.desktop.background = start.background
  cursor : h.desktop.cursor = start.cursor
  perm : windows.Perm h.added
  arranged : h.desktop.Arranged windows

variable {start : Desktop} {h : History} {windows : List LayerId}

theorem Shows.perform (shows : Shows start h windows) (few : h.added.length < LayerStack.maxHeight)
    (call : Call) : ∃ windows', Shows start (h.perform call) windows' := by
  have arranged := shows.arranged
  have perm := shows.perm
  rw [← perm.length_eq] at few
  have outcome := outcome_perform h.desktop call
  have cursor := (arranged.toIntact.outcome outcome).2.trans shows.cursor
  unfold History.perform
  generalize h.desktop.perform call = result at *
  cases outcome with
  | added window position =>
    exact ⟨_, shows.background, cursor, perm.append_right _, arranged.addWindow few window position⟩
  | reported e =>
    dsimp only [Option.toList_none]
    rw [List.append_nil]
    rcases arranged.handlePointer few e with ⟨_, kept⟩ | ⟨id, mem, _, raised⟩
    . exact ⟨windows, shows.background, cursor, perm, kept⟩
    . refine ⟨_, shows.background, cursor, ?_, raised⟩
      exact (List.perm_append_singleton ..).trans ((List.perm_cons_erase mem).symm.trans perm)
  | still still =>
    dsimp only [Option.toList_none]
    rw [List.append_nil]
    exact ⟨windows, still.background.trans shows.background, cursor, perm, arranged.still still⟩

theorem Shows.performAll (shows : Shows start h windows) (calls : List Call)
    (few : (h.performAll calls).added.length < LayerStack.maxHeight) :
    ∃ windows', Shows start (h.performAll calls) windows' := by
  induction calls generalizing h windows with
  | nil => exact ⟨windows, shows⟩
  | cons call calls ih =>
    have few_now := Nat.lt_of_le_of_lt (h.added_le (call :: calls)) few
    obtain ⟨windows', shows'⟩ := shows.perform few_now call
    exact ih shows' few

end History

/-- In every run of calls the background stays at the bottom and at the origin, each layer that was added
is visible once above it, and the cursor is on top at the pointer; a report keeps the order of the layers
between, or brings one of them to the front. After each report the cursor is on top and at the pointer
even if any calls of the compositor are made in between, unless these remove it. In both cases there must
not be more layers than heights: beyond `LayerStack.maxHeight` the height of a new layer wraps around when it
is cast to a coordinate, and no height is that of the top. -/
theorem arranged_of_run {windows : Windows} {log : Log.Logger} {output : Surface} {options : Options}
    {start : Desktop} (up : Desktop.start windows log output options = .ok start) :
    (∀ calls,
      let h := (History.begin start).performAll calls
      h.added.length < LayerStack.maxHeight →
      ∃ shown, History.Shows start h shown
        ∧ ∀ e, h.desktop.Reorders (h.desktop.handlePointer e) shown)
      ∧ ∀ requests, .layers (.removeLayer start.cursor) ∉ requests →
        let d := start.respondAll requests
        d.compositor.stack.order.length ≤ LayerStack.maxHeight → ∀ e,
          let d' := d.handlePointer e
          d'.compositor.stack.order.getLast? = some start.cursor
            ∧ ∃ l, d'.compositor.layer? start.cursor = some l ∧ l.position = d'.pointer.position := by
  dsimp only
  have arranged := arranged_start up
  constructor
  . intro calls few
    have shows : History.Shows start (.begin start) [] := ⟨rfl, rfl, .refl _, arranged⟩
    obtain ⟨shown, shows'⟩ := shows.performAll calls few
    refine ⟨shown, shows', ?_⟩
    intro e
    apply shows'.arranged.handlePointer _ e
    rw [shows'.perm.length_eq]
    exact few
  . intro requests kept few e
    obtain ⟨intact, same⟩ := arranged.toIntact.respondAll requests kept
    rw [← same]
    exact intact.cursor_on_top few e

theorem arranged_of_run_raised :
    let fb : FrameBuffer :=
      ⟨⟨4, 3, 20, .bgrx8888⟩, Storage.zeros 60, by decide, Storage.size_zeros 60⟩
    let w : Window :=
      ⟨⟨⟨4, 4, 12, .rgb888⟩, Storage.zeros 48, by decide, Storage.size_zeros 48⟩, .replicate 16 .black,
        none, rfl, rfl⟩
    let press : PointerEvent := ⟨⟨true, false, false⟩, 2, 1⟩
    let calls : List Call :=
      [.shareWindow w, .addWindow 2 ⟨0, 0⟩, .addWindow 2 ⟨1, 1⟩, .handlePointer press, .redraw]
    ∃ start, Desktop.start #[] .fresh (.buffer fb) .standard = .ok start
      ∧ (let h := (History.begin start).performAll calls
        ∃ shown, History.Shows start h shown
          ∧ ∀ e, h.desktop.Reorders (h.desktop.handlePointer e) shown)
      ∧ let d := start.respondAll [.layers (.place start.background .greatest)]
        ∀ e,
          let d' := d.handlePointer e
          d'.compositor.stack.order.getLast? = some start.cursor
            ∧ ∃ l, d'.compositor.layer? start.cursor = some l ∧ l.position = d'.pointer.position := by
  intro fb w press calls
  have valid : ((Surface.buffer fb).packedLayout #[]).Valid := fb.valid.repacked
  obtain ⟨start, up⟩ := exists_start valid .fresh .standard
  have few : ((History.begin start).performAll calls).added.length < LayerStack.maxHeight := by
    show 2 < LayerStack.maxHeight
    decide
  have kept : .layers (.removeLayer start.cursor)
      ∉ [Request.layers (.place start.background .greatest)] := by
    simp
  have short : (start.respondAll [.layers (.place start.background .greatest)]).compositor.stack.order.length
      ≤ LayerStack.maxHeight := by
    have begun := arranged_start up
    obtain ⟨base, found, _⟩ := begun.base
    have placed := place_of_layer? found (show 0 ≤ Coord.greatest.val by decide)
    have visible : start.background ∈ start.compositor.stack.order := by
      rw [begun.order]
      exact List.mem_cons_self
    show (start.compositor.place start.background .greatest).stack.order.length ≤ LayerStack.maxHeight
    rw [placed, (LayerStack.perm_place ..).length_eq, ← (List.perm_cons_erase visible).length_eq,
      begun.order]
    show 2 ≤ LayerStack.maxHeight
    decide
  obtain ⟨arranged, on_top⟩ := arranged_of_run up
  exact ⟨start, up, arranged calls few, on_top _ kept short⟩

end Desktop
end Overlay
