import Overlay.Proofs.Desktop.Start

/-!
This module contains what a running desktop shows: after each call, its output is up to date with the
stack of layers, although most calls only draw a small part of it.
-/

namespace Overlay

namespace Desktop

open Compositor

variable {d d' : Desktop}

namespace Sound

variable (sound : d.Sound)
include sound

theorem redraw : d.redraw.Sound :=
  Pointer.Guides.restack sound sound.backed.draw rfl

theorem setWindows {windows : Windows}
    (sync : ({ d.compositor with windows := windows } : Compositor).Sound)
    (grown : d.compositor.windows.size ≤ windows.size)
    (kept : ∀ id l, d.compositor.layer? id = some l →
      l.window? windows = l.window? d.compositor.windows) :
    ({ d with compositor := { d.compositor with windows := windows } } : Desktop).Sound := by
  obtain ⟨t, bound, plain⟩ := sound.backed.plain
  obtain ⟨backed, current⟩ := sound.backed.setWindows sound.current sync grown kept
  apply Pointer.Guides.keep sound backed current
  . rw [screenSize, screenSize]
    dsimp only
    rw [bound]
    exact Surface.inspect_extent_plain plain _ _
  . intro id l found
    exact ⟨found, kept id l found⟩

theorem share {w : Window} (sync : w.InSync) :
    ({ d with compositor := (d.compositor.addWindow w).1 } : Desktop).Sound := by
  apply sound.setWindows (sound.backed.sound.addWindow sync)
  . apply Nat.le_of_lt
    exact Nat.lt_of_lt_of_eq (Nat.lt_succ_self _) (Array.size_push w).symm
  . intro id l found
    unfold Layer.window?
    cases shows : l.window with
    | none => rfl
    | some window =>
      have lt := (sound.backed.known id l found).2 window shows
      rw [Option.bind_some, Option.bind_some, Array.getElem?_push_lt lt, Array.getElem?_eq_getElem lt]

theorem edit {id : WindowId} (e : Window.Edit)
    (unshown : ∀ layer l, d.compositor.layer? layer = some l → l.window ≠ some id) :
    ({ d with compositor := d.compositor.modifyWindow id (·.edit e) } : Desktop).Sound := by
  have sync := sound.backed.sound.modifyWindow id (fun _ sync => Window.inSync_edit sync e)
    fun w => Window.layout_edit w e
  apply sound.setWindows sync
  . apply Nat.le_of_eq
    exact Array.size_modify.symm
  . intro layer l found
    unfold Layer.window?
    cases shows : l.window with
    | none => rfl
    | some window =>
      have apart : id ≠ window := by
        rintro rfl
        exact unshown layer l found shows
      rw [Option.bind_some, Option.bind_some, Array.getElem?_modify, if_neg apart]

theorem newWindow {width height : Nat} {id : WindowId}
    (made : d.newWindow width height = .ok (d', id)) : d'.Sound := by
  unfold Desktop.newWindow at made
  split at made
  . cases made
  . next w black =>
    have sync := Window.kept_inSync.paintFrame (Window.inSync_black? black)
    generalize Chrome.paintFrame w = framed at *
    cases made
    exact sound.share sync

theorem addWindow {window : WindowId} (known : window < d.compositor.windows.size) (position : Point) :
    (d.addWindow window position).1.Sound := by
  have keeps : ∀ l : Layer, (((l.setWindow window).moveTo position).setDraggable true).id = l.id :=
    fun _ => rfl
  obtain ⟨backed, layers, off⟩ := sound.backed.newLayer sound.current keeps (fun _ => rfl) known
  have found := layers (d.compositor.stack.lastId + 1)
  rw [if_pos rfl] at found
  have stored : d.compositor.windows[window]? = some d.compositor.windows[window] :=
    Array.getElem?_eq_getElem known
  have covers : ((((Layer.blank (d.compositor.stack.lastId + 1)).setWindow window).moveTo
      position).setDraggable true).bounds? d.compositor.windows
      = some ⟨position, d.compositor.windows[window].size⟩ :=
    Layer.bounds?_of_window? stored
  have other : d.background ≠ d.compositor.stack.lastId + 1 := by
    intro same
    obtain ⟨l, _, base, _⟩ := sound.backed.full
    have old := (sound.backed.known _ l base).1
    rw [same] at old
    exact Nat.not_succ_le_self _ old
  unfold Desktop.addWindow
  dsimp only
  generalize Coord.wrap _ = height
  obtain ⟨stack, placed, same⟩ :=
    backed.placeAnywhereAndDraw found covers (off _ covers) other height
  apply Pointer.Guides.keep sound placed.backed placed.current placed.screen
  intro id l before
  have old : id ≠ d.compositor.stack.lastId + 1 := by
    rintro rfl
    exact Nat.not_succ_le_self _ (sound.backed.known _ l before).1
  refine ⟨?_, congrArg l.window? placed.windows⟩
  have kept := layers id
  rw [if_neg old, before] at kept
  exact ((congrFun placed.layer?_eq id).trans (congrFun same id)).trans kept

theorem handlePointer (e : PointerEvent) : (d.handlePointer e).Sound := by
  have handled := Pointer.Guides.handle sound e
  have same : (d.pointer.handle d.compositor e).1.cursor = d.cursor := by
    unfold Pointer.handle Pointer.press Pointer.release
    dsimp only
    split
    . split <;> rfl
    . rfl
    . split <;> rfl
    . rfl
  unfold Desktop.handlePointer
  dsimp only
  rw [← same]
  generalize d.pointer.handle d.compositor e = result at *
  obtain ⟨pointer, c⟩ := result
  split
  . exact handled
  -- A layer that was pressed lies above the cursor.
  . obtain ⟨l, w, found, window, _⟩ := handled.cursor
    have covers := Layer.bounds?_of_window? window
    have zero_le : 0 ≤ Coord.greatest.val := by decide
    have raised := handled.backed.placeAndDraw found covers (handled.current.off _) zero_le
    exact handled.restack raised rfl

end Sound

/-- The calls of a desktop. Between them, windows may be made, and may be painted on as long as no layer
shows them. -/
inductive Step (d : Desktop) : Desktop → Prop where
  | newWindow (width height : Nat) {d' : Desktop} {id : WindowId}
      (made : d.newWindow width height = .ok (d', id)) : Step d d'
  | share (w : Window) (made : w.Reachable) :
      Step d { d with compositor := (d.compositor.addWindow w).1 }
  | edit (id : WindowId) (e : Window.Edit)
      (unshown : ∀ layer l, d.compositor.layer? layer = some l → l.window ≠ some id) :
      Step d { d with compositor := d.compositor.modifyWindow id (·.edit e) }
  | addWindow (id : WindowId) (known : id < d.compositor.windows.size) (position : Point) :
      Step d (d.addWindow id position).1
  | handlePointer (e : PointerEvent) : Step d (d.handlePointer e)
  | handleReport (buttons : UInt8) (dx dy : Int8) : Step d (d.handleReport buttons dx dy)
  | redraw : Step d d.redraw

inductive Run (start : Desktop) : Desktop → Prop where
  | rest : Run start start
  | step {d d' : Desktop} (before : Run start d) (next : Step d d') : Run start d'

theorem Sound.step (sound : d.Sound) (next : Step d d') : d'.Sound := by
  cases next with
  | newWindow width height made => exact sound.newWindow made
  | share w made => exact sound.share made.inSync
  | edit id e unshown => exact sound.edit e unshown
  | addWindow id known position => exact sound.addWindow known position
  | handlePointer e => exact sound.handlePointer e
  | handleReport buttons dx dy => exact sound.handlePointer _
  | redraw => exact sound.redraw

theorem Run.sound {start : Desktop} (run : Run start d) (sound : start.Sound) : d.Sound := by
  induction run with
  | rest => exact sound
  | step _ next ih => exact ih.step next

/-- After each call, every pixel of the output has the colour of the topmost layer that shows one there,
so that drawing all of the screen changes none. -/
theorem output_up_to_date {windows : Windows} {log : Log.Logger} {output : Surface}
    {options : Options} {start : Desktop} (made : ∀ (id : WindowId) w, windows[id]? = some w → w.Reachable)
    (whole : output.Whole) (plain : ∀ id, output ≠ .window id)
    (up : Desktop.start windows log output options = .ok start) (run : Run start d) :
    let c := d.compositor
    (∀ p, (c.output? p).isSome = (Rect.ofSize c.screenSize).contains p)
      ∧ (∀ p color, c.output? p = some color → c.stack.shown? c.windows p.x.val p.y.val = some color)
      ∧ ∀ p, d.redraw.compositor.output? p = c.output? p := by
  have sound := run.sound (sound_start (fun id w found => (made id w found).inSync) whole plain up)
  dsimp only
  refine ⟨sound.backed.isSome_output?, ?_, sound.backed.output?_draw sound.current⟩
  intro p color seen
  exact sound.backed.shown?_of_output? sound.current seen

theorem output_up_to_date_dragged :
    let fb : FrameBuffer :=
      ⟨⟨4, 3, 20, .bgrx8888⟩, Storage.zeros 60, by decide, Storage.size_zeros 60⟩
    ∃ start d, Desktop.start #[] .fresh (.buffer fb) .standard = .ok start ∧ Run start d
      ∧ let c := d.compositor
        (∀ p, (c.output? p).isSome = (Rect.ofSize c.screenSize).contains p)
          ∧ (∀ p color, c.output? p = some color →
            c.stack.shown? c.windows p.x.val p.y.val = some color)
          ∧ ∀ p, d.redraw.compositor.output? p = c.output? p := by
  intro fb
  have valid : ((Surface.buffer fb).packedLayout #[]).Valid := fb.valid.repacked
  obtain ⟨start, up⟩ := exists_start valid .fresh .standard
  obtain ⟨w, made⟩ : ∃ w, Window.Reachable w :=
    ⟨_, 5, 4, .rgb888, _, [.stroke (.clear .white), .setKey (some .black)], rfl, rfl⟩
  have known : start.compositor.windows.size < (start.compositor.windows.push w).size := by
    rw [Array.size_push]
    exact Nat.lt_succ_self _
  have idle : Run start start := .rest
  have shared := idle.step (.share w made)
  have shown := shared.step (.addWindow start.compositor.windows.size known ⟨-1, -1⟩)
  have pressed := shown.step (.handlePointer ⟨⟨true, false, false⟩, 0, 0⟩)
  have dragged := pressed.step (.handlePointer ⟨⟨true, false, false⟩, -2, 127⟩)
  have run := dragged.step (.handlePointer ⟨.none, 1, -1⟩)
  have stored : ∀ (id : WindowId) (w : Window), (#[] : Windows)[id]? = some w → w.Reachable := by
    intro id w found
    simp at found
  have whole : (Surface.buffer fb).Whole := trivial
  have plain : ∀ id, Surface.buffer fb ≠ .window id := nofun
  exact ⟨start, _, up, run, output_up_to_date stored whole plain up run⟩

end Desktop
end Overlay
