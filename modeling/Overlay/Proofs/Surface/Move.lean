import Overlay.Proofs.Surface.Relay
import Overlay.Proofs.Window.Agreement

/-!
This module contains moves within one surface. The rows are moved one after the other, in an order in which
none is overwritten before it is read, so that the whole area moves at once, however much its old place and
its new one overlap.
-/

namespace Overlay

open Readable

namespace Transfer

variable {α β : Type} {t : Transfer} {width : Nat} {done done' : Nat → Prop}
  {plane plane' plane'' : Nat → Nat → β}

def Fills (t : Transfer) (row x y : Nat) : Prop :=
  y = t.target.y.toNat + row ∧ t.target.x.toNat ≤ x ∧ x < t.target.x.toNat + t.columns

structure RowsMoved (t : Transfer) (width : Nat) (done : Nat → Prop) (plane plane' : Nat → Nat → β) :
    Prop where
  brought : ∀ row x y, done row → x < width → t.Fills row x y →
    plane' x y
      =
    plane (x - t.target.x.toNat + t.source.pos.x.toNat) (y - t.target.y.toNat + t.source.pos.y.toNat)
  kept : ∀ x y, x < width → (∀ row, done row → ¬t.Fills row x y) → plane' x y = plane x y

namespace RowsMoved

theorem congr (moved : t.RowsMoved width done plane plane') (same : ∀ row, done row ↔ done' row) :
    t.RowsMoved width done' plane plane' := by
  have same : done = done' := funext fun row => propext (same row)
  subst same
  exact moved

theorem single {row : Nat}
    (inside : ∀ j, j < t.columns →
      plane' (t.target.x.toNat + j) (t.target.y.toNat + row)
        =
      plane (t.source.pos.x.toNat + j) (t.source.pos.y.toNat + row))
    (outside : ∀ x y, x < width → ¬t.Fills row x y → plane' x y = plane x y) :
    t.RowsMoved width (· = row) plane plane' where
  brought := by
    rintro row x y rfl hx ⟨rfl, left, right⟩
    obtain ⟨j, rfl⟩ := Nat.exists_eq_add_of_le left
    rw [inside j (by omega), Nat.add_sub_cancel_left, Nat.add_sub_cancel_left, Nat.add_comm j,
      Nat.add_comm row]
  kept x y hx free := outside x y hx (free row rfl)

theorem next {row : Nat} (before : t.RowsMoved width done plane plane')
    (moved : t.RowsMoved width (· = row) plane' plane'')
    (fits : t.source.pos.x.toNat + t.columns ≤ width) (new : ¬done row)
    (unread : ∀ other, done other → t.target.y.toNat + other ≠ t.source.pos.y.toNat + row) :
    t.RowsMoved width (fun other => done other ∨ other = row) plane plane'' where
  brought := by
    rintro other x y either hx ⟨rfl, left, right⟩
    rcases either with earlier | rfl
    . rw [moved.kept x _ hx, before.brought other x _ earlier hx ⟨rfl, left, right⟩]
      rintro last rfl ⟨same, _⟩
      obtain rfl : other = last := by omega
      exact new earlier
    . rw [moved.brought other x _ rfl hx ⟨rfl, left, right⟩, before.kept]
      . omega
      . rintro earlier done_earlier ⟨same, _⟩
        have := unread earlier done_earlier
        omega
  kept := by
    intro x y hx free
    rw [moved.kept x y hx, before.kept x y hx]
    . intro other earlier
      exact free other (.inl earlier)
    . intro other last
      exact free other (.inr last)

end RowsMoved

theorem rowOrder_rowOrder {i : Nat} (hi : i < t.rows) : t.rowOrder (t.rowOrder i) = i := by
  unfold rowOrder
  split <;> omega

theorem filled_ne_read {i k : Nat} (hik : i < k) (hk : k < t.rows) :
    t.target.y.toNat + t.rowOrder i ≠ t.source.pos.y.toNat + t.rowOrder k := by
  -- The rows are taken from the side of the target on, so that each is read before its place is filled.
  unfold rowOrder
  simp only [Coord.le_def, Coord.toNat]
  split <;> omega

theorem rowsMoved_fold {I : α → Prop} {read : α → Nat → Nat → β} (f : Nat → α → α) {s : α} (start : I s)
    (fits : t.source.pos.x.toNat + t.columns ≤ width)
    (round : ∀ row s', row < t.rows → I s' →
      I (f row s') ∧ t.RowsMoved width (· = row) (read s') (read (f row s'))) :
    let s' := t.rows.fold (fun i _ s => f (t.rowOrder i) s) s
    I s' ∧ t.RowsMoved width (· < t.rows) (read s) (read s') := by
  dsimp only
  have rounds : I (t.rows.fold (fun i _ s => f (t.rowOrder i) s) s)
      ∧ t.RowsMoved width (fun row => ∃ i, i < t.rows ∧ row = t.rowOrder i) (read s)
        (read (t.rows.fold (fun i _ s => f (t.rowOrder i) s) s)) := by
    -- After `k` rounds the first `k` rows of the order are in place.
    apply Loop.progress (motive := fun k s' =>
      I s' ∧ t.RowsMoved width (fun row => ∃ i, i < k ∧ row = t.rowOrder i) (read s) (read s'))
    . refine ⟨start, ?_, fun _ _ _ _ => rfl⟩
      rintro row x y ⟨i, hi, _⟩
      exact absurd hi (Nat.not_lt_zero i)
    . rintro k hk s' ⟨inv, before⟩
      obtain ⟨inv', moved⟩ := round (t.rowOrder k) s' (rowOrder_lt hk) inv
      refine ⟨inv', (before.next moved fits ?_ ?_).congr ?_⟩
      . rintro ⟨i, hi, same⟩
        have again := rowOrder_rowOrder (Nat.lt_trans hi hk)
        rw [← same, rowOrder_rowOrder hk] at again
        omega
      . rintro _ ⟨i, hi, rfl⟩
        exact filled_ne_read hi hk
      . intro row
        constructor
        . rintro (⟨i, hi, rfl⟩ | rfl)
          . exact ⟨i, Nat.lt_succ_of_lt hi, rfl⟩
          . exact ⟨k, Nat.lt_succ_self k, rfl⟩
        . rintro ⟨i, hi, rfl⟩
          rcases Nat.lt_succ_iff_lt_or_eq.mp hi with earlier | rfl
          . exact .inl ⟨i, earlier, rfl⟩
          . exact .inr rfl
  refine ⟨rounds.1, rounds.2.congr ?_⟩
  intro row
  constructor
  . rintro ⟨i, hi, rfl⟩
    exact rowOrder_lt hi
  . intro hrow
    exact ⟨t.rowOrder row, rowOrder_lt hrow, (rowOrder_rowOrder hrow).symm⟩

end Transfer

structure Shifted {σ : Type} [Canvas σ] [Readable σ] (target : Point) (area : Rect) (s s' : σ) :
    Prop extends SameShape s s' where
  brought : ∀ q p, Brings (Canvas.bounds s) target area q p → (Canvas.bounds s).contains p = true →
    pixel? s' p = pixel? s q
  kept : ∀ p, (∀ q, Brings (Canvas.bounds s) target area q p → (Canvas.bounds s).contains p = false) →
    pixel? s' p = pixel? s p
  padding : ∀ i, padding? s' i = padding? s i

theorem Rect.toNat_x_lt {size p : Point} (seen : (Rect.ofSize size).contains p = true) :
    p.x.toNat < size.x.toNat := by
  rw [contains_ofSize, covers_ofSize] at seen
  rw [Coord.toNat, Coord.toNat]
  omega

namespace Transfer.Clipped

variable {area : Rect} {size target p q : Point} {t : Transfer}
  (clipped : t.Clipped area size target size) (seen : (Rect.ofSize size).contains p = true)
include clipped seen

theorem exists_fills (brings : Brings (.ofSize size) target area q p) :
    ∃ row, row < t.rows ∧ t.Fills row p.x.toNat p.y.toNat
      ∧ q.x.toNat = p.x.toNat - t.target.x.toNat + t.source.pos.x.toNat
      ∧ q.y.toNat = p.y.toNat - t.target.y.toNat + t.source.pos.y.toNat := by
  rw [Rect.contains_ofSize] at seen
  have inside := Rect.covers_ofSize.mp seen
  have x := brings.x
  have y := brings.y
  have lands := (clipped.lands_iff seen).mp brings.covers
  obtain ⟨u, v⟩ := clipped.came_from (p.y.toNat - t.target.y.toNat) (p.x.toNat - t.target.x.toNat)
  refine ⟨p.y.toNat - t.target.y.toNat, ?_⟩
  unfold Fills
  simp only [Coord.toNat] at *
  omega

theorem exists_brings {row : Nat} (hrow : row < t.rows) (fills : t.Fills row p.x.toNat p.y.toNat) :
    ∃ q, Brings (.ofSize size) target area q p := by
  rw [Rect.contains_ofSize] at seen
  have inside := Rect.covers_ofSize.mp seen
  have lands : (t.target.x.toNat ≤ p.x.val ∧ p.x.val < t.target.x.toNat + t.columns)
      ∧ t.target.y.toNat ≤ p.y.val ∧ p.y.val < t.target.y.toNat + t.rows := by
    unfold Fills at fills
    simp only [Coord.toNat] at *
    omega
  obtain ⟨in_area, in_source⟩ := (clipped.lands_iff seen).mpr lands
  exact Brings.exists_of_covers in_area in_source

section

variable {β : Type} {plane plane' : Nat → Nat → β}
  (moved : t.RowsMoved size.x.toNat (· < t.rows) plane plane')
include moved

theorem brought (brings : Brings (.ofSize size) target area q p) :
    plane' p.x.toNat p.y.toNat = plane q.x.toNat q.y.toNat := by
  obtain ⟨row, hrow, fills, x, y⟩ := clipped.exists_fills seen brings
  rw [moved.brought row _ _ hrow (Rect.toNat_x_lt seen) fills, x, y]

theorem kept (free : ∀ q, ¬Brings (.ofSize size) target area q p) :
    plane' p.x.toNat p.y.toNat = plane p.x.toNat p.y.toNat := by
  apply moved.kept _ _ (Rect.toNat_x_lt seen)
  intro row hrow fills
  obtain ⟨q, brings⟩ := clipped.exists_brings seen hrow fills
  exact free q brings

end

end Transfer.Clipped

theorem not_brings_of_clip {size target p q : Point} {area : Rect}
    (nothing : Transfer.clip area (.ofSize size) target (.ofSize size) = none)
    (seen : (Rect.ofSize size).contains p = true) : ¬Brings (.ofSize size) target area q p := by
  intro brings
  rw [Rect.contains_ofSize] at seen
  exact Transfer.not_covers_of_clip nothing seen brings.covers

namespace Shifted

variable {σ : Type} [Canvas σ] [LawfulCanvas σ] {s s' : σ} (hs : Intact s) {target : Point} {area : Rect}
include hs

theorem idle (nothing : Transfer.clip area (Canvas.bounds s) target (Canvas.bounds s) = none) :
    Shifted target area s s where
  toSameShape := (Painted.idle hs).toSameShape
  brought := by
    intro q p brings seen
    exact absurd brings (not_brings_of_clip nothing seen)
  kept _ _ := rfl
  padding _ := rfl

theorem of_seen (shape : SameShape s s') (padding : ∀ i, padding? s' i = padding? s i)
    (brought : ∀ q p, Brings (Canvas.bounds s) target area q p → (Canvas.bounds s).contains p = true →
      pixel? s' p = pixel? s q)
    (kept : ∀ p, (Canvas.bounds s).contains p = true →
      (∀ q, ¬Brings (Canvas.bounds s) target area q p) → pixel? s' p = pixel? s p) :
    Shifted target area s s' where
  toSameShape := shape
  brought := brought
  kept := by
    intro p free
    cases seen : (Canvas.bounds s).contains p with
    | true =>
      apply kept p seen
      intro q brings
      rw [free q brings] at seen
      cases seen
    | false =>
      -- Off the surface there is nothing to be kept.
      have outside : ∀ s'' : σ, SameShape s s'' → pixel? s'' p = none := by
        intro s'' shape
        rw [← Option.not_isSome_iff_eq_none, LawfulCanvas.isSome_pixel? s'' p shape.intact, shape.bounds,
          seen]
        exact Bool.false_ne_true
      rw [outside s' shape, outside s (Painted.idle hs).toSameShape]
  padding := padding

end Shifted

namespace FrameBuffer

variable {fb : FrameBuffer} {target : Point} {area : Rect} {t : Transfer}

structure BytesShifted (target : Point) (area : Rect) (fb fb' : FrameBuffer) : Prop where
  layout : fb'.layout = fb.layout
  brought : ∀ q p k, Brings fb.bounds target area q p → fb.bounds.contains p = true →
    k < fb.layout.bytesPerPixel → fb'.byteAt? p.x.toNat p.y.toNat k = fb.byteAt? q.x.toNat q.y.toNat k
  kept : ∀ p k, fb.bounds.contains p = true → (∀ q, ¬Brings fb.bounds target area q p) →
    k < fb.layout.bytesPerPixel → fb'.byteAt? p.x.toNat p.y.toNat k = fb.byteAt? p.x.toNat p.y.toNat k
  padding : ∀ i, padding? fb' i = padding? fb i

theorem BytesShifted.shifted {fb' : FrameBuffer} (h : BytesShifted target area fb fb') :
    Shifted target area fb fb' := by
  have bpp : 3 ≤ fb.layout.bytesPerPixel := fb.layout.format.three_le_bytesPerPixel
  have congr : ∀ p q : Point, fb.bounds.contains p = true → fb.bounds.contains q = true →
      (∀ k, k < fb.layout.bytesPerPixel →
        fb'.byteAt? p.x.toNat p.y.toNat k = fb.byteAt? q.x.toNat q.y.toNat k) →
      fb'.pixel? p = fb.pixel? q := by
    intro p q seen seen_q bytes
    have seen' : fb'.bounds.contains p = true := by
      rw [FrameBuffer.bounds, h.layout]
      exact seen
    apply pixel?_of_bytes (by rw [h.layout]) seen' seen_q
    intro k hk
    exact bytes k (Nat.lt_of_lt_of_le hk bpp)
  apply Shifted.of_seen trivial (sameShape h.layout) h.padding
  . intro q p brings seen
    exact congr p q seen brings.in_source fun k hk => h.brought q p k brings seen hk
  . intro p seen free
    exact congr p p seen seen fun k hk => h.kept p k seen free hk

theorem bytes_moveRun {sx sy tx ty n : Nat} (hsx : sx + n ≤ fb.layout.width) (hsy : sy < fb.layout.height)
    (htx : tx + n ≤ fb.layout.width) (hty : ty < fb.layout.height) :
    Storage.bytes (fb.moveRun sx sy tx ty n).data
      =
    splice (Storage.bytes fb.data) (fb.layout.offset tx ty) (Storage.bytes (fb.rowBytes sx sy n)) := by
  rw [moveRun, data_mapData, Storage.bytes_move (fits hsx hsy) (fits htx hty), rowBytes,
    Storage.bytes_extract]

def bytesAt (n : Nat) (fb : FrameBuffer) (x y : Nat) (k : Fin n) : Option UInt8 := fb.byteAt? x y k

theorem rowsMoved_moveRun (clipped : t.Clipped area fb.layout.size target fb.layout.size) {row : Nat}
    (hrow : row < t.rows) :
    let fb' := fb.moveRun t.source.pos.x.toNat (t.source.pos.y.toNat + row) t.target.x.toNat
      (t.target.y.toNat + row) t.columns
    (∀ i, padding? fb' i = padding? fb i)
      ∧ t.RowsMoved fb.layout.size.x.toNat (· = row) (bytesAt fb.layout.bytesPerPixel fb)
        (bytesAt fb.layout.bytesPerPixel fb') := by
  dsimp only
  obtain ⟨hsx, htx⟩ := clipped.columns_fit
  obtain ⟨hsy, hty⟩ := clipped.rows_fit
  rw [fb.valid.toNat_size_x] at hsx htx ⊢
  rw [fb.valid.toNat_size_y] at hsy hty
  have size : (fb.rowBytes t.source.pos.x.toNat (t.source.pos.y.toNat + row) t.columns).size
      = t.columns * fb.layout.format.bytesPerPixel := size_rowBytes hsx (by omega)
  have bytes : Storage.bytes (fb.moveRun t.source.pos.x.toNat (t.source.pos.y.toNat + row)
      t.target.x.toNat (t.target.y.toNat + row) t.columns).data = splice _ _ _ :=
    bytes_moveRun hsx (by omega) htx (by omega)
  have layout := layout_moveRun fb t.source.pos.x.toNat (t.source.pos.y.toNat + row) t.target.x.toNat
    (t.target.y.toNat + row) t.columns
  generalize fb.moveRun t.source.pos.x.toNat (t.source.pos.y.toNat + row) t.target.x.toNat
    (t.target.y.toNat + row) t.columns = fb' at *
  refine ⟨(painted_splice htx (by omega) size bytes layout).padding, .single ?_ ?_⟩
  . intro j hj
    funext ⟨k, hk⟩
    show fb'.byteAt? _ _ k = fb.byteAt? _ _ k
    rw [byteAt?, byteAt?, layout, byte_splice_inside htx (by omega) size bytes hj hk, byte_rowBytes hj hk]
  . intro x y hx out
    funext ⟨k, hk⟩
    show fb'.byteAt? _ _ k = fb.byteAt? _ _ k
    rw [byteAt?, byteAt?, layout, byte_splice_outside htx (by omega) size bytes hx out hk]

theorem bytesShifted_moveRect (fb : FrameBuffer) (target : Point) (area : Rect) :
    BytesShifted target area fb (fb.moveRect target area) := by
  rw [moveRect]
  cases h : Transfer.clip area fb.bounds target fb.bounds with
  | none =>
    refine ⟨rfl, ?_, fun _ _ _ _ _ => rfl, fun _ => rfl⟩
    intro q p k brings seen hk
    exact absurd brings (not_brings_of_clip h seen)
  | some t =>
    have clipped : t.Clipped area fb.layout.size target fb.layout.size := Transfer.clipped_of_clip h
    let I (fb' : FrameBuffer) : Prop := fb'.layout = fb.layout ∧ ∀ i, padding? fb' i = padding? fb i
    let read : FrameBuffer → Nat → Nat → Fin fb.layout.bytesPerPixel → Option UInt8 := bytesAt _
    let move (row : Nat) (fb' : FrameBuffer) : FrameBuffer :=
      fb'.moveRun t.source.pos.x.toNat (t.source.pos.y.toNat + row) t.target.x.toNat
        (t.target.y.toNat + row) t.columns
    have round : ∀ row fb', row < t.rows → I fb' →
        I (move row fb')
          ∧ t.RowsMoved fb.layout.size.x.toNat (· = row) (read fb') (read (move row fb')) := by
      rintro row fb' hrow ⟨layout, padding⟩
      dsimp only [I, read]
      rw [← layout] at clipped ⊢
      obtain ⟨padding', moved⟩ := rowsMoved_moveRun clipped hrow
      exact ⟨⟨layout_moveRun .., fun i => (padding' i).trans (padding i)⟩, moved⟩
    obtain ⟨⟨layout, padding⟩, moved⟩ :=
      Transfer.rowsMoved_fold move ⟨rfl, fun _ => rfl⟩ clipped.columns_fit.1 round
    refine ⟨layout, ?_, ?_, padding⟩
    . intro q p k brings seen hk
      exact congrFun (clipped.brought seen moved brings) ⟨k, hk⟩
    . intro p k seen free hk
      exact congrFun (clipped.kept seen moved free) ⟨k, hk⟩

end FrameBuffer

namespace Window

variable {w : Window} {target : Point} {area : Rect} {t : Transfer}

def plane (width : Nat) (pixels : Array Color) (x y : Nat) : Option Color := pixels[y * width + x]?

theorem pixel?_eq_plane {p : Point} (seen : w.bounds.contains p = true) :
    w.pixel? p = plane w.width w.pixels p.x.toNat p.y.toNat := by
  rw [pixel?, if_pos seen]
  rfl

theorem rowsMoved_moveRun {pixels : Array Color} {width height row : Nat}
    (size : pixels.size = width * height) (hsx : t.source.pos.x.toNat + t.columns ≤ width)
    (hsy : t.source.pos.y.toNat + row < height) (htx : t.target.x.toNat + t.columns ≤ width)
    (hty : t.target.y.toNat + row < height) :
    t.RowsMoved width (· = row) (plane width pixels)
      (plane width (moveRun pixels ((t.source.pos.y.toNat + row) * width + t.source.pos.x.toNat)
        ((t.target.y.toNat + row) * width + t.target.x.toNat) t.columns)) := by
  have source_fits := Grid.strip_fits hsx hsy
  have target_fits := Grid.strip_fits htx hty
  rw [← size] at source_fits target_fits
  have moved := toList_moveRun source_fits target_fits
  have length : ((pixels.toList.drop ((t.source.pos.y.toNat + row) * width + t.source.pos.x.toNat)).take
      t.columns).length = t.columns := by
    rw [List.length_take, List.length_drop, Array.length_toList]
    omega
  have fits : (t.target.y.toNat + row) * width + t.target.x.toNat
      + ((pixels.toList.drop ((t.source.pos.y.toNat + row) * width + t.source.pos.x.toNat)).take
        t.columns).length ≤ pixels.toList.length := by
    rw [length, Array.length_toList]
    exact target_fits
  apply Transfer.RowsMoved.single
  . intro j hj
    rw [plane, plane, ← Array.getElem?_toList, moved, ← Nat.add_assoc,
      getElem?_splice_inside fits (by rw [length]; exact hj), List.getElem?_take_of_lt hj,
      List.getElem?_drop, Array.getElem?_toList, Nat.add_assoc]
  . intro x y hx out
    rw [plane, plane, ← Array.getElem?_toList, moved, getElem?_splice_outside fits,
      Array.getElem?_toList]
    rw [length]
    exact Grid.index_apart htx hx out

theorem rowsMoved_moveRows (clipped : t.Clipped area w.size target w.size) :
    t.RowsMoved w.size.x.toNat (· < t.rows) (plane w.width w.pixels)
      (plane w.width (moveRows w.pixels w.width t)) := by
  obtain ⟨hsx, htx⟩ := clipped.columns_fit
  obtain ⟨hsy, hty⟩ := clipped.rows_fit
  rw [toNat_size_x] at hsx htx ⊢
  rw [toNat_size_y] at hsy hty
  apply And.right
  apply Transfer.rowsMoved_fold (I := fun pixels : Array Color => pixels.size = w.width * w.height)
    (fun row pixels => moveRun pixels ((t.source.pos.y.toNat + row) * w.width + t.source.pos.x.toNat)
      ((t.target.y.toNat + row) * w.width + t.target.x.toNat) t.columns)
    w.size_pixels hsx
  intro row pixels hrow size
  exact ⟨(size_moveRun ..).trans size, rowsMoved_moveRun size hsx (by omega) htx (by omega)⟩

theorem shadow_moveRect (w : Window) (target : Point) (area : Rect) :
    (w.moveRect target area).shadow = w.shadow.moveRect target area := by
  have same : w.shadow.bounds = w.bounds := rfl
  rw [moveRect, FrameBuffer.moveRect, same]
  cases h : Transfer.clip area w.bounds target w.bounds with
  | none => rfl
  | some t =>
    dsimp only
    show w.shadow.moveRect target area = _
    rw [FrameBuffer.moveRect, same, h]

theorem shifted_moveRect (w : Window) (target : Point) (area : Rect) :
    Shifted target area w (w.moveRect target area) := by
  cases h : Transfer.clip area w.bounds target w.bounds with
  | none =>
    rw [moveRect, h]
    exact Shifted.idle (s := w) trivial h
  | some t =>
    have layout := layout_moveRect w target area
    have pixels : (w.moveRect target area).pixels = moveRows w.pixels w.width t := by
      rw [moveRect, h]
      rfl
    have bounds : (w.moveRect target area).bounds = w.bounds := by
      rw [Window.bounds, Window.size, layout, Window.bounds, Window.size]
    have clipped : t.Clipped area w.size target w.size := Transfer.clipped_of_clip h
    have read : ∀ p, w.bounds.contains p = true →
        (w.moveRect target area).pixel? p = plane w.width (moveRows w.pixels w.width t) p.x.toNat p.y.toNat := by
      intro p seen
      have same : (w.moveRect target area).width = w.width := congrArg Layout.width layout
      rw [pixel?_eq_plane (by rw [bounds]; exact seen), same, pixels]
    apply Shifted.of_seen (s := w) trivial (sameShape layout) (fun _ => rfl)
    . intro q p brings seen
      exact (read p seen).trans ((clipped.brought seen (rowsMoved_moveRows clipped) brings).trans
        (pixel?_eq_plane brings.in_source).symm)
    . intro p seen free
      exact (read p seen).trans ((clipped.kept seen (rowsMoved_moveRows clipped) free).trans
        (pixel?_eq_plane seen).symm)

end Window

/-- A move takes each pixel that it brings as it was before the move, whatever it has brought already, and with
all of its bytes. In a window both copies of the picture are moved so. -/
theorem moveRect_at_once (target : Point) (area : Rect) :
    (∀ fb : FrameBuffer, Shifted target area fb (fb.moveRect target area)
        ∧ FrameBuffer.BytesShifted target area fb (fb.moveRect target area))
      ∧ ∀ w : Window, Shifted target area w (w.moveRect target area)
        ∧ Shifted target area w.shadow (w.moveRect target area).shadow
        ∧ FrameBuffer.BytesShifted target area w.shadow (w.moveRect target area).shadow := by
  have buffers : ∀ fb : FrameBuffer, Shifted target area fb (fb.moveRect target area)
      ∧ FrameBuffer.BytesShifted target area fb (fb.moveRect target area) := by
    intro fb
    have bytes := fb.bytesShifted_moveRect target area
    exact ⟨bytes.shifted, bytes⟩
  refine ⟨buffers, ?_⟩
  intro w
  rw [Window.shadow_moveRect]
  exact ⟨Window.shifted_moveRect w target area, buffers w.shadow⟩

end Overlay
