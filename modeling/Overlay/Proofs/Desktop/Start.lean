import Overlay.Desktop.Basic
import Overlay.Proofs.Pointer.Controller

/-!
This module contains what a desktop is like when it has come up: its background fills the screen, its
pointer works on the cursor, and the output shows both.
-/

namespace Overlay

namespace Desktop

open Compositor

variable {d : Desktop}

def Sound (d : Desktop) : Prop := d.pointer.Guides d.compositor d.background

def curtain (c : Compositor) (base cursor : Window) (position : Point) : Compositor :=
  let c := (showWindow c base .origin).1
  let c := (showWindow c cursor position).1
  (c.place 1 0).place 2 1

theorem curtain_eq {c : Compositor} (fresh : c.stack = .empty) (base cursor : Window)
    (position : Point) :
    curtain c base cursor position
      =
    let layers : List Layer :=
      [⟨1, .origin, some c.windows.size, false⟩, ⟨2, position, some (c.windows.push base).size, false⟩]
    { c with windows := (c.windows.push base).push cursor, stack := ⟨layers, [1, 2], 2⟩ } := by
  obtain ⟨windows, stack, target, log⟩ := c
  cases fresh
  rfl

theorem sameScreen_curtain {c : Compositor} (fresh : c.stack = .empty) (base cursor : Window)
    (position : Point) :
    SameScreen ((c.addWindow base).1.addWindow cursor).1 (curtain c base cursor position) := by
  rw [curtain_eq fresh]
  exact ⟨rfl, rfl⟩

theorem window?_base (windows : Windows) (base cursor : Window) :
    ((windows.push base).push cursor)[windows.size]? = some base := by
  have lt : windows.size < (windows.push base).size := by
    rw [Array.size_push]
    exact Nat.lt_succ_self _
  rw [Array.getElem?_push_lt lt, Array.getElem_push_eq]

theorem known_curtain {c : Compositor} (fresh : c.stack = .empty) (base cursor : Window)
    (position : Point) {id : LayerId} {l : Layer}
    (found : (curtain c base cursor position).layer? id = some l) :
    id ≤ 2 ∧ ∀ window, l.window = some window →
      window < (curtain c base cursor position).windows.size := by
  have base_lt := (Array.getElem?_eq_some_iff.mp (window?_base c.windows base cursor)).1
  have cursor_shown : ((c.windows.push base).push cursor)[(c.windows.push base).size]? = some cursor :=
    Array.getElem?_push_size
  have cursor_lt := (Array.getElem?_eq_some_iff.mp cursor_shown).1
  rw [(sameScreen_curtain fresh base cursor position).windows]
  rw [curtain_eq fresh] at found
  have id_eq := LayerStack.id_of_find? found
  have mem := List.mem_of_find?_eq_some found
  rw [← id_eq]
  rw [List.mem_cons, List.mem_singleton] at mem
  rcases mem with rfl | rfl
  . refine ⟨Nat.le_succ 1, ?_⟩
    rintro window ⟨⟩
    exact base_lt
  . refine ⟨Nat.le_refl 2, ?_⟩
    rintro window ⟨⟩
    exact cursor_lt

theorem backed_curtain {c : Compositor} {t : Target} (sound : c.Sound) (fresh : c.stack = .empty)
    (bound : c.target = some t) (plain : ∀ id, t.output ≠ .window id) {base cursor : Window}
    (base_sync : base.InSync) (unkeyed : base.key = none) (size : base.size = c.screenSize)
    (cursor_sync : cursor.InSync) (position : Point) :
    (curtain c base cursor position).Backed 1
      ∧ (curtain c base cursor position).screenSize = c.screenSize
      ∧ ∃ l, (curtain c base cursor position).layer? 2 = some l
        ∧ l.window? (curtain c base cursor position).windows = some cursor := by
  have same := sameScreen_curtain fresh base cursor position
  have screen : (curtain c base cursor position).screenSize = c.screenSize := by
    have bound' : ((c.addWindow base).1.addWindow cursor).1.target = some t := bound
    rw [screenSize_congr same, screenSize, screenSize, bound', bound]
    exact Surface.inspect_extent_plain plain _ _
  refine ⟨?_, screen, ?_⟩
  . constructor
    . exact ((sound.addWindow base_sync).addWindow cursor_sync).congr same
    . refine ⟨t, ?_, plain⟩
      rw [same.target]
      exact bound
    . intro id l found
      have stack : (curtain c base cursor position).stack.lastId = 2 := by
        rw [curtain_eq fresh]
      rw [stack]
      exact known_curtain fresh base cursor position found
    . refine ⟨⟨1, .origin, some c.windows.size, false⟩, base, ?_, rfl, rfl, ?_, unkeyed,
        size.trans screen.symm⟩
      . rw [curtain_eq fresh]
        rfl
      . rw [same.windows]
        exact window?_base c.windows base cursor
    . rw [curtain_eq fresh]
      exact .head _
  . refine ⟨⟨2, position, some (c.windows.push base).size, false⟩, ?_, ?_⟩
    . rw [curtain_eq fresh]
      rfl
    . rw [same.windows]
      exact Array.getElem?_push_size

theorem size_screen {c : Compositor} {t : Target} (sound : c.Sound) (bound : c.target = some t)
    {w : Window} {format : PixelFormat}
    (made : Window.black? c.screenSize.x.toNat c.screenSize.y.toNat format = .ok w) :
    w.size = c.screenSize := by
  have valid := sound.valid bound
  have screen := screenSize_eq bound valid
  rw [Window.size, Window.layout_black? made, screen, valid.toNat_size_x, valid.toNat_size_y]
  rfl

theorem paintDesktop_shape {w : Window} (unkeyed : w.key = none) (color : Color) :
    (Chrome.paintDesktop w color).key = none
      ∧ (Chrome.paintDesktop w color).shadow.layout = w.shadow.layout := by
  constructor
  . have kept : Canvas.Kept fun w : Window => w.key = none := by
      intro w x y color h
      show (w.writePixel x y color).key = none
      rw [Window.key_writePixel, h]
    exact kept.paintDesktop unkeyed color
  . exact (Window.kept_layout w.shadow.layout).paintDesktop rfl color

theorem inSync_cursor {format : PixelFormat} {w : Window} (made : Cursor.window? format = .ok w) :
    w.InSync := by
  unfold Cursor.window? at made
  cases black : Window.black? Cursor.width Cursor.height format with
  | error _ =>
    rw [black] at made
    contradiction
  | ok start =>
    simp only [black, bind, Except.bind, pure, Except.pure, Except.ok.injEq] at made
    subst made
    have sync := Window.inSync_black? black
    have keyed : (start.setKey (some Cursor.keyColor)).InSync := sync
    exact Window.kept_inSync.paintCursor keyed .origin

theorem showWindow_ids {c : Compositor} (fresh : c.stack = .empty) (base cursor : Window)
    (position : Point) :
    (showWindow c base .origin).2 = 1
      ∧ (showWindow (showWindow c base .origin).1 cursor position).2 = 2 := by
  obtain ⟨windows, stack, target, log⟩ := c
  cases fresh
  exact ⟨rfl, rfl⟩

theorem target_setOutput {c c' : Compositor} {output : Surface}
    (made : c.setOutput output = (c', .ok ())) :
    c'.stack = c.stack ∧ c'.windows = c.windows ∧ ∃ back, c'.target = some ⟨output, back⟩ := by
  unfold setOutput at made
  dsimp only at made
  split at made
  . cases made
  . cases made
    exact ⟨rfl, rfl, _, rfl⟩

theorem exists_setOutput {c : Compositor} {output : Surface}
    (valid : (output.packedLayout c.windows).Valid) : ∃ c', c.setOutput output = (c', .ok ()) := by
  obtain ⟨back, _, made⟩ := setOutput_of_valid valid
  exact ⟨_, made⟩

theorem exists_cursor (format : PixelFormat) : ∃ w, Cursor.window? format = .ok w := by
  have valid : (Layout.packed Cursor.width Cursor.height format).Valid := by
    cases format <;> decide
  obtain ⟨w, made⟩ := Window.exists_black? valid
  unfold Cursor.window?
  rw [made]
  exact ⟨_, rfl⟩

theorem exists_start {windows : Windows} {output : Surface}
    (valid : (output.packedLayout windows).Valid) (log : Log.Logger) (options : Options) :
    ∃ d, start windows log output options = .ok d := by
  obtain ⟨cursor, painted⟩ := exists_cursor (output.packedLayout windows).format
  obtain ⟨c, made⟩ := exists_setOutput (c := create windows (log.setLevel options.level)) valid
  obtain ⟨_, same, back, bound⟩ := target_setOutput made
  have screen : c.screenSize = (output.packedLayout windows).size := by
    rw [screenSize, bound, same]
    exact Surface.inspect_extent valid
  have fits : (Layout.packed c.screenSize.x.toNat c.screenSize.y.toNat
      (output.packedLayout windows).format).Valid := by
    rw [screen, valid.toNat_size_x, valid.toNat_size_y]
    exact valid.repacked
  obtain ⟨base, black⟩ := Window.exists_black? fits
  unfold start
  dsimp only
  rw [made]
  dsimp only
  rw [black]
  dsimp only
  rw [painted]
  exact ⟨_, rfl⟩

theorem sound_start {windows : Windows} (sync : Windows.InSync windows) {log : Log.Logger}
    {output : Surface} (whole : output.Whole) (plain : ∀ id, output ≠ .window id) {options : Options}
    (up : start windows log output options = .ok d) : d.Sound := by
  unfold start at up
  have sound := (sound_create sync (log.setLevel options.level)).setOutput whole
  dsimp only at up
  split at up
  . cases up
  . next c made =>
    rw [made] at sound
    obtain ⟨fresh, _, back, bound⟩ := target_setOutput made
    split at up
    . cases up
    . next base black =>
      split at up
      . cases up
      . next cursor painted =>
        obtain ⟨unkeyed, layout⟩ := paintDesktop_shape (Window.key_black? black) options.background
        have size : (Chrome.paintDesktop base options.background).size = c.screenSize := by
          rw [Window.size, layout]
          exact size_screen sound bound black
        have sync_base := Window.kept_inSync.paintDesktop (Window.inSync_black? black) options.background
        generalize Chrome.paintDesktop base options.background = base at *
        obtain ⟨backed, screen, l, found, window⟩ := backed_curtain sound fresh bound plain sync_base unkeyed
          size (inSync_cursor painted) options.cursor
        obtain ⟨base_id, cursor_id⟩ := showWindow_ids fresh base cursor options.cursor
        have guides := Pointer.guides_create backed (by decide) found window options.cursor
        rw [screen] at guides
        rw [base_id, cursor_id] at up
        cases up
        exact guides.restack (guides.backed.post guides.current _) rfl

end Desktop
end Overlay
