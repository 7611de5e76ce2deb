import Overlay.Layer.Stack
import Overlay.Proofs.Surface
import Overlay.Proofs.Surface.Encoded
import Overlay.Proofs.Window.Blit

/-!
This module contains what a stack of layers shows: at each place the colour of the topmost visible layer
that shows one there. A layer that shows nothing at a place may be put anywhere in the stack.
-/

namespace Overlay

open Readable

section

variable {α β : Type} {f : α → Option β}

theorem topmost_cons (a : α) (l : List α) :
    (a :: l).reverse.findSome? f = (l.reverse.findSome? f).or (f a) := by
  rw [List.reverse_cons, List.findSome?_append, List.findSome?_singleton]

theorem topmost_erase [DecidableEq α] {a : α} (blank : f a = none) (l : List α) :
    (l.erase a).reverse.findSome? f = l.reverse.findSome? f := by
  induction l with
  | nil => rfl
  | cons b l ih =>
    by_cases same : b = a
    . subst same
      rw [List.erase_cons_head, topmost_cons, blank, Option.or_none]
    . rw [List.erase_cons_tail (by simpa using same), topmost_cons, topmost_cons, ih]

theorem topmost_insertIdx {a : α} (blank : f a = none) (l : List α) {n : Nat} (hn : n ≤ l.length) :
    (l.insertIdx n a).reverse.findSome? f = l.reverse.findSome? f := by
  induction l generalizing n with
  | nil =>
    have : n = 0 := by simpa using hn
    subst this
    rw [List.insertIdx_zero, topmost_cons, blank, Option.or_none]
  | cons b l ih =>
    cases n with
    | zero => rw [List.insertIdx_zero, topmost_cons, blank, Option.or_none]
    | succ n =>
      rw [List.insertIdx_succ_cons, topmost_cons, topmost_cons, ih]
      simpa using hn

theorem topmost_filter {q : α → Bool} (blank : ∀ a, q a = false → f a = none) (l : List α) :
    (l.filter q).reverse.findSome? f = l.reverse.findSome? f := by
  induction l with
  | nil => rfl
  | cons a l ih =>
    rw [topmost_cons, ← ih, List.filter_cons]
    cases kept : q a with
    | true => exact topmost_cons a _
    | false => rw [blank a kept, Option.or_none, if_neg Bool.false_ne_true]

theorem topmost_filter_isSome (l : List α) :
    (l.filter fun a => (f a).isSome).reverse.findSome? f = l.reverse.findSome? f := by
  apply topmost_filter
  intro a blank
  rw [Option.isSome_eq_false_iff, Option.isNone_iff_eq_none] at blank
  exact blank

theorem topmost_filterMap {γ : Type} (g : γ → Option α) (l : List γ) :
    (l.filterMap g).reverse.findSome? f = l.reverse.findSome? fun c => (g c).bind f := by
  induction l with
  | nil => rfl
  | cons c l ih =>
    rw [topmost_cons, ← ih, List.filterMap_cons]
    cases g c with
    | none => rw [Option.bind_none, Option.or_none]
    | some a => exact topmost_cons a _

end

variable {windows : Windows} {x y : Int}

namespace Layer

def shown? (l : Layer) (windows : Windows) (x y : Int) : Option Color :=
  (l.window? windows).bind (·.shown? l.position x y)

theorem id_moveTo (position : Point) (l : Layer) : (l.moveTo position).id = l.id := rfl

theorem bounds?_of_window? {l : Layer} {w : Window} (window : l.window? windows = some w) :
    l.bounds? windows = some ⟨l.position, w.size⟩ := by
  rw [bounds?, window]
  rfl

theorem shown?_outside {l : Layer} {p : Point} (hx : p.x.val < 2147483647)
    (hy : p.y.val < 2147483647)
    (out : ∀ r, l.bounds? windows = some r → r.contains p = false) :
    l.shown? windows p.x.val p.y.val = none := by
  unfold shown?
  cases found : l.window? windows with
  | none => rfl
  | some w =>
    have uncovered := out _ (bounds?_of_window? found)
    rw [Option.bind_some, Window.shown?, if_neg]
    rw [← Rect.contains_iff_covers hx hy, uncovered]
    exact Bool.false_ne_true

theorem encoded_drawTo (sync : Windows.InSync windows) (l : Layer) (fb : FrameBuffer) (area : Rect) :
    FrameBuffer.Encoded (fun x y => if area.Covers x y then l.shown? windows x y else none) fb
      (l.drawTo windows fb area) := by
  unfold drawTo shown?
  cases found : l.window? windows with
  | none =>
    apply FrameBuffer.Encoded.idle.congr
    intro x y _ _
    exact (ite_self _).symm
  | some w =>
    have sync_w : w.InSync := by
      obtain ⟨id, _, stored⟩ := Option.bind_eq_some_iff.mp found
      exact sync id w stored
    have intact : Intact fb := trivial
    dsimp only
    rw [Window.drawInto_plain intact sync_w]
    exact FrameBuffer.encoded_plotAll fb _

theorem encoded_drawAll (sync : Windows.InSync windows) (layers : List Layer) (fb : FrameBuffer)
    (area : Rect) :
    FrameBuffer.Encoded
      (fun x y =>
        if area.Covers x y then layers.reverse.findSome? (·.shown? windows x y) else none)
      fb (layers.foldl (fun fb l => l.drawTo windows fb area) fb) := by
  induction layers generalizing fb with
  | nil =>
    apply FrameBuffer.Encoded.idle.congr
    intro x y _ _
    exact (ite_self _).symm
  | cons l layers ih =>
    apply ((encoded_drawTo sync l fb area).trans (ih _)).congr
    intro x y _ _
    by_cases covered : area.Covers x y
    . rw [if_pos covered, if_pos covered, if_pos covered, topmost_cons]
    . rw [if_neg covered, if_neg covered, if_neg covered]
      rfl

end Layer

namespace LayerStack

def shown? (s : LayerStack) (windows : Windows) (x y : Int) : Option Color :=
  s.visible.reverse.findSome? (·.shown? windows x y)

variable {s : LayerStack} {id : LayerId}

def shownBy? (s : LayerStack) (windows : Windows) (x y : Int) (id : LayerId) : Option Color :=
  (s.find? id).bind (·.shown? windows x y)

theorem shown?_eq (s : LayerStack) (windows : Windows) (x y : Int) :
    s.shown? windows x y = s.order.reverse.findSome? (s.shownBy? windows x y) :=
  topmost_filterMap _ _

theorem shown?_of_order {below above : List LayerId} (order : s.order = below ++ id :: above)
    {color : Color} (shown : s.shownBy? windows x y id = some color)
    (blank : ∀ other ∈ above, s.shownBy? windows x y other = none) :
    s.shown? windows x y = some color := by
  rw [shown?_eq, List.findSome?_eq_some_iff]
  refine ⟨above.reverse, id, below.reverse, ?_, shown, ?_⟩
  . rw [order]
    simp
  . intro other mem
    exact blank other (List.mem_reverse.mp mem)

theorem shown?_setWindows {windows' : Windows}
    (kept : ∀ id l, s.find? id = some l → l.window? windows' = l.window? windows) :
    s.shown? windows' x y = s.shown? windows x y := by
  have same : s.shownBy? windows' x y = s.shownBy? windows x y := by
    funext id
    rw [shownBy?, shownBy?]
    cases found : s.find? id with
    | none => rfl
    | some l => rw [Option.bind_some, Option.bind_some, Layer.shown?, Layer.shown?, kept id l found]
  rw [shown?_eq, shown?_eq, same]

theorem shownBy?_outside {l : Layer} {area : Rect} {p : Point} (found : s.find? id = some l)
    (covers : l.bounds? windows = some area) (hx : p.x.val < 2147483647) (hy : p.y.val < 2147483647)
    (out : area.contains p = false) : s.shownBy? windows p.x.val p.y.val id = none := by
  rw [shownBy?, found, Option.bind_some]
  apply Layer.shown?_outside hx hy
  intro r hr
  rw [covers] at hr
  cases hr
  exact out

theorem shown?_place (blank : s.shownBy? windows x y id = none) (height : Nat) :
    (s.place id height).shown? windows x y = s.shown? windows x y := by
  rw [shown?_eq, shown?_eq]
  have same : (s.place id height).shownBy? windows x y = s.shownBy? windows x y := rfl
  rw [same, place]
  dsimp only
  rw [topmost_insertIdx blank _ (Nat.min_le_right ..), topmost_erase blank]

theorem shown?_hide (blank : s.shownBy? windows x y id = none) :
    (s.hide id).shown? windows x y = s.shown? windows x y := by
  rw [shown?_eq, shown?_eq]
  exact topmost_erase blank _

theorem find?_erase (s : LayerStack) (id id' : LayerId) :
    (s.erase id).find? id' = if id' = id then none else s.find? id' := by
  unfold find? erase
  dsimp only
  rw [List.find?_filter]
  split
  . next same =>
    subst same
    rw [List.find?_eq_none]
    intro l _
    simp
  . next other =>
    congr 1
    funext l
    by_cases hit : l.id = id'
    . simp [hit, other]
    . simp [hit]

theorem shown?_erase (blank : s.shownBy? windows x y id = none) :
    (s.erase id).shown? windows x y = s.shown? windows x y := by
  have same : (s.erase id).shownBy? windows x y = s.shownBy? windows x y := by
    funext id'
    by_cases hit : id' = id
    . rw [hit, blank, shownBy?, find?_erase, if_pos rfl]
      rfl
    . rw [shownBy?, find?_erase, if_neg hit, shownBy?]
  rw [shown?_eq, shown?_eq, same]
  apply topmost_filter
  intro id' erased
  rw [bne_eq_false_iff_eq] at erased
  rw [erased, blank]

theorem id_of_find? {l : Layer} (found : s.find? id = some l) : l.id = id := by
  unfold find? at found
  simpa using List.find?_some found

theorem find?_add (s : LayerStack) (id : LayerId) :
    s.add.find? id
      =
    (s.find? id).or (if id = s.lastId + 1 then some (.blank id) else none) := by
  unfold find? add
  dsimp only
  rw [List.find?_append, List.find?_singleton]
  by_cases new : id = s.lastId + 1
  . subst new
    rw [if_pos rfl, if_pos]
    exact beq_self_eq_true _
  . rw [if_neg new, if_neg]
    simpa [Layer.blank] using Ne.symm new

theorem find?_modify {f : Layer → Layer} (keeps : ∀ l, (f l).id = l.id) (id' : LayerId) :
    (s.modify id f).find? id' = if id' = id then (s.find? id').map f else s.find? id' := by
  unfold find? modify
  dsimp only
  rw [List.find?_map]
  have same_id : ((fun l : Layer => l.id == id') ∘ fun l => if l.id == id then f l else l)
      = fun l => l.id == id' := by
    funext l
    rw [Function.comp_apply]
    split
    . rw [keeps]
    . rfl
  rw [same_id]
  cases found : s.layers.find? (fun l => l.id == id') with
  | none => split <;> rfl
  | some l =>
    have l_id := id_of_find? found
    subst l_id
    by_cases hit : l.id = id
    . simp [hit]
    . simp [hit]

theorem shown?_add (s : LayerStack) (windows : Windows) (x y : Int) :
    s.add.shown? windows x y = s.shown? windows x y := by
  have same : s.add.shownBy? windows x y = s.shownBy? windows x y := by
    funext id
    unfold shownBy?
    rw [find?_add]
    cases s.find? id with
    | some l => rfl
    | none =>
      split
      . rfl
      . rfl
  rw [shown?_eq, shown?_eq, same]
  rfl

theorem shown?_modify {f : Layer → Layer} (keeps : ∀ l, (f l).id = l.id)
    (blank : s.shownBy? windows x y id = none)
    (blank' : (s.modify id f).shownBy? windows x y id = none) :
    (s.modify id f).shown? windows x y = s.shown? windows x y := by
  have same : (s.modify id f).shownBy? windows x y = s.shownBy? windows x y := by
    funext id'
    by_cases hit : id' = id
    . rw [hit, blank, blank']
    . unfold shownBy?
      rw [find?_modify keeps, if_neg hit]
  rw [shown?_eq, shown?_eq, same]
  rfl

theorem find?_moveTo_self {l : Layer} (found : s.find? id = some l) (position : Point) :
    (s.modify id (·.moveTo position)).find? id = some (l.moveTo position) := by
  rw [find?_modify (Layer.id_moveTo position), if_pos rfl, found]
  rfl

theorem find?_moveTo_other {id' : LayerId} (other : id' ≠ id) (position : Point) :
    (s.modify id (·.moveTo position)).find? id' = s.find? id' := by
  rw [find?_modify (Layer.id_moveTo position), if_neg other]

/-! A layer that is added may be set up before anything is drawn. -/

variable {f : Layer → Layer} (keeps : ∀ l, (f l).id = l.id) (new : s.find? (s.lastId + 1) = none)
include keeps new

theorem find?_addModify (id : LayerId) :
    (s.add.modify (s.lastId + 1) f).find? id
      =
    if id = s.lastId + 1 then some (f (.blank (s.lastId + 1))) else s.find? id := by
  rw [find?_modify keeps, find?_add]
  by_cases hit : id = s.lastId + 1
  . subst hit
    rw [if_pos rfl, if_pos rfl, if_pos rfl, new]
    rfl
  . rw [if_neg hit, if_neg hit, if_neg hit, Option.or_none]

theorem shown?_addModify
    (blank : (s.add.modify (s.lastId + 1) f).shownBy? windows x y (s.lastId + 1) = none) :
    (s.add.modify (s.lastId + 1) f).shown? windows x y = s.shown? windows x y := by
  rw [shown?_modify keeps _ blank, shown?_add]
  rw [shownBy?, find?_add, new, if_pos rfl]
  rfl

end LayerStack
end Overlay
