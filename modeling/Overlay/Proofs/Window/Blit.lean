import Overlay.Proofs.Canvas.Plot
import Overlay.Proofs.Surface.Screen
import Overlay.Proofs.Window.Agreement

/-!
This module contains the meaning of drawing a window: both ways of doing it, the copy of the shadow and
the walk over the colours, store what a plain walk over the whole sink stores.
-/

namespace Overlay

open Readable

namespace Window

def unkeyed? (w : Window) (color : Color) : Option Color :=
  if w.key = some color then none else some color

def shown? (w : Window) (offset : Point) (x y : Int) : Option Color :=
  if (Rect.mk offset w.size).Covers x y then
    (w.pixel? ⟨.clamp (x - offset.x.val), .clamp (y - offset.y.val)⟩).bind w.unkeyed?
  else
    none

def inked? (w : Window) (offset : Point) (area : Rect) (x y : Int) : Option Color :=
  if area.Covers x y then w.shown? offset x y else none

/-- Goes through all points of a sink, and stores what the window shows there within `area`. -/
def drawPlainly [Canvas σ] (w : Window) (sink : σ) (offset : Point) (area : Rect) : σ :=
  Canvas.plotAll sink fun x y => w.inked? offset area x y

variable {w : Window} {offset : Point} {area : Rect}

theorem covers_of_inked? {x y : Int} (h : (w.inked? offset area x y).isSome = true) :
    area.Covers x y ∧ (Rect.mk offset w.size).Covers x y := by
  unfold inked? at h
  split at h
  . next in_area =>
    unfold shown? at h
    split at h
    . next in_window => exact ⟨in_area, in_window⟩
    . contradiction
  . contradiction

theorem val_clamp_sub {x y : Int} (in_window : (Rect.mk offset w.size).Covers x y) :
    (Coord.clamp (x - offset.x.val)).val = x - offset.x.val
      ∧ (Coord.clamp (y - offset.y.val)).val = y - offset.y.val := by
  rw [Rect.covers_mk] at in_window
  have := w.size.x.le_greatest
  have := w.size.y.le_greatest
  rw [Coord.val_clamp, Coord.val_clamp]
  omega

theorem contains_clamp_sub {x y : Int} (in_window : (Rect.mk offset w.size).Covers x y) :
    w.bounds.contains ⟨.clamp (x - offset.x.val), .clamp (y - offset.y.val)⟩ = true := by
  obtain ⟨column, row⟩ := val_clamp_sub in_window
  rw [Rect.covers_mk] at in_window
  rw [contains_bounds, column, row, ← val_size_x, ← val_size_y]
  omega

theorem inked?_eq {x y : Int} (in_area : area.Covers x y)
    (in_window : (Rect.mk offset w.size).Covers x y) :
    w.inked? offset area x y
      =
    (w.pixels[w.index (x - offset.x.val).toNat (y - offset.y.val).toNat]?).bind w.unkeyed? := by
  obtain ⟨column, row⟩ := val_clamp_sub in_window
  rw [inked?, if_pos in_area, shown?, if_pos in_window, pixel?, if_pos (contains_clamp_sub in_window),
    Coord.toNat, column, Coord.toNat, row]

theorem bind_unkeyed? (unkeyed : w.key = none) (color : Option Color) :
    color.bind w.unkeyed? = color := by
  cases color with
  | none => rfl
  | some color => simp [unkeyed?, unkeyed]

section

variable {σ : Type} [Canvas σ]

theorem plot_inked? {key : Color} (keyed : w.key = some key) {x y : Nat}
    (in_window : (Rect.mk offset w.size).Covers x y) (in_area : area.Covers x y) (s : σ) :
    Canvas.plot s x y (w.inked? offset area x y)
      =
    match w.pixels[w.index (x - offset.x.val).toNat (y - offset.y.val).toNat]? with
    | some color => if color = key then s else Canvas.writePixel s x y color
    | none => s := by
  rw [inked?_eq in_area in_window]
  cases w.pixels[w.index (x - offset.x.val).toNat (y - offset.y.val).toNat]? with
  | none => rfl
  | some color =>
    rw [Option.bind_some, unkeyed?]
    dsimp only
    by_cases skipped : color = key
    . rw [if_pos (by rw [keyed, skipped]), if_pos skipped]
      rfl
    . rw [if_neg (by rw [keyed, Option.some_inj]; exact Ne.symm skipped), if_neg skipped]
      rfl

def clip (w : Window) (sink : σ) (offset : Point) (area : Rect) : Rect :=
  ((Rect.mk offset w.size).inter area).inter (Canvas.bounds sink)

variable [LawfulCanvas σ] {sink : σ} (hs : Intact sink) {r : Rect} (hr : w.clip sink offset area = r)
include hs hr

theorem covers_clip {x y : Nat} (hx : x < Canvas.width sink) (hy : y < Canvas.height sink) :
    r.Covers x y ↔ (Rect.mk offset w.size).Covers x y ∧ area.Covers x y := by
  have : Layout.maxDimension = 8192 := rfl
  have := LawfulCanvas.width_le sink hs
  have := LawfulCanvas.height_le sink hs
  have on_sink : (Canvas.bounds sink).Covers x y := by
    rw [Canvas.bounds, Rect.covers_ofSize, Canvas.val_extent_x hs, Canvas.val_extent_y hs]
    omega
  rw [← hr, clip, Rect.covers_inter (by omega) (by omega), Rect.covers_inter (by omega) (by omega)]
  exact ⟨fun h => h.1, fun h => ⟨h, on_sink⟩⟩

theorem clip_fits (proper : r.isEmpty = false) :
    (0 ≤ r.pos.x.val ∧ r.pos.x.val + r.size.x.val ≤ Canvas.width sink)
      ∧ 0 ≤ r.pos.y.val ∧ r.pos.y.val + r.size.y.val ≤ Canvas.height sink := by
  have whole : Canvas.bounds sink = .ofSize (Canvas.extent sink) := rfl
  rw [clip, whole] at hr
  subst hr
  rw [← Canvas.val_extent_x hs, ← Canvas.val_extent_y hs]
  exact Rect.fits_of_inter_ofSize proper

theorem drawPlainly_of_isEmpty (empty : r.isEmpty = true) :
    w.drawPlainly sink offset area = sink := by
  apply Canvas.plotAll_idle
  intro x y hx hy
  rw [← Option.not_isSome_iff_eq_none]
  intro inked
  have covered := (covers_clip hs hr hx hy).mpr (covers_of_inked? inked).symm
  rw [Rect.not_isEmpty_of_covers covered] at empty
  exact absurd empty Bool.false_ne_true

theorem drawPlainly_eq_plotBlock (proper : r.isEmpty = false) :
    w.drawPlainly sink offset area
      =
    Canvas.plotBlock sink r.pos.x.toNat r.pos.y.toNat r.size.x.toNat r.size.y.toNat
      fun x y => w.inked? offset area x y := by
  obtain ⟨⟨left, right⟩, top, bottom⟩ := clip_fits hs hr proper
  obtain ⟨width_pos, height_pos⟩ := Rect.isEmpty_eq_false.mp proper
  apply Canvas.plotAll_eq_plotBlock
  . simp only [Coord.toNat]
    omega
  . simp only [Coord.toNat]
    omega
  . intro x y hx hy inked
    obtain ⟨a, b, c, d⟩ := (covers_clip hs hr hx hy).mpr (covers_of_inked? inked).symm
    simp only [Coord.toNat]
    omega

omit hr in
theorem drawInto_keyed {key : Color} (keyed : w.key = some key) :
    w.drawInto sink offset area = w.drawPlainly sink offset area := by
  obtain ⟨r, hr⟩ : ∃ r, w.clip sink offset area = r := ⟨_, rfl⟩
  have unfolded : ((Rect.mk offset w.size).inter area).inter (Canvas.bounds sink) = r := hr
  unfold drawInto
  rw [unfolded]
  dsimp only
  cases empty : r.isEmpty with
  | true => exact (drawPlainly_of_isEmpty hs hr empty).symm
  | false =>
    obtain ⟨⟨left, right⟩, top, bottom⟩ := clip_fits hs hr empty
    obtain ⟨width_pos, height_pos⟩ := Rect.isEmpty_eq_false.mp empty
    have : Layout.maxDimension = 8192 := rfl
    have := LawfulCanvas.width_le sink hs
    have := LawfulCanvas.height_le sink hs
    have rows : (r.bottom.val - r.pos.y.val).toNat = r.size.y.toNat := by
      rw [Rect.bottom, Coord.val_add, Coord.toNat]
      omega
    have columns : (r.right.val - r.pos.x.val).toNat = r.size.x.toNat := by
      rw [Rect.right, Coord.val_add, Coord.toNat]
      omega
    rw [if_neg Bool.false_ne_true, keyed, drawPlainly_eq_plotBlock hs hr empty, Canvas.plotBlock]
    dsimp only
    rw [rows, columns]
    apply Loop.congr (I := fun _ => True)
    . trivial
    . intros
      trivial
    . intro i hi s _
      apply Loop.congr (I := fun _ => True)
      . trivial
      . intros
        trivial
      . intro j hj s _
        have column : r.pos.x.val + j = (r.pos.x.toNat + j : Nat) := by
          simp only [Coord.toNat]
          omega
        have row : r.pos.y.val + i = (r.pos.y.toNat + i : Nat) := by
          simp only [Coord.toNat]
          omega
        rw [Coord.toNat] at hi hj
        have covered : r.Covers (r.pos.x.toNat + j : Nat) (r.pos.y.toNat + i : Nat) := by
          rw [Rect.covers_iff, ← column, ← row]
          omega
        rw [covers_clip hs hr (by omega) (by omega)] at covered
        rw [column, row, Int.toNat_natCast, Int.toNat_natCast]
        exact (plot_inked? keyed covered.1 covered.2 s).symm

omit hr in
theorem copyRow_shadow (sync : w.InSync) {sx sy x y n : Nat} (hsx : sx + n ≤ w.width)
    (hsy : sy < w.height) (hx : x + n ≤ Canvas.width sink) (hy : y < Canvas.height sink) :
    Canvas.copyRow sink x y (w.shadow.rowBytes sx sy n) w.format
      =
    Nat.fold n (fun j _ s => Canvas.plot s (x + j) y w.pixels[w.index (sx + j) sy]?) sink := by
  let colors := (w.pixels.toList.drop (w.index sx sy)).take n
  have fits : w.index sx sy + n ≤ w.pixels.size := by
    rw [w.size_pixels, index]
    exact Grid.strip_fits hsx hsy
  have length : colors.length = n := by
    rw [List.length_take, List.length_drop, Array.length_toList]
    omega
  have encoded : Storage.bytes (w.shadow.rowBytes sx sy n) = w.format.encodeAll colors := by
    rw [FrameBuffer.rowBytes, Storage.bytes_extract, sync, offset_eq, PixelFormat.encodeAll_take,
      PixelFormat.encodeAll_drop]
    rfl
  have count : (w.shadow.rowBytes sx sy n).size / w.format.bytesPerPixel = n := by
    rw [← Storage.length_bytes, encoded, PixelFormat.length_encodeAll, length,
      Nat.mul_div_cancel _ w.format.bytesPerPixel_pos]
  rw [LawfulCanvas.copyRow_eq_copyPixels sink x y colors _ _ hs (by rw [length]; exact hx) hy encoded]
  rw [copyPixels, count]
  apply Loop.congr (I := fun _ => True)
  . trivial
  . intros
    trivial
  . intro j hj s _
    have place : w.index (sx + j) sy = w.index sx sy + j := by
      rw [index, index, Nat.add_assoc]
    have lt : w.index sx sy + j < w.pixels.size := by omega
    have stored : colors[j]? = some w.pixels[w.index sx sy + j] := by
      rw [List.getElem?_take_of_lt hj, List.getElem?_drop, Array.getElem?_toList,
        Array.getElem?_eq_getElem lt]
    rw [place, Array.getElem?_eq_getElem lt, w.format.decodeAt_of_encodeAll encoded stored]
    rfl

omit hr in
theorem copyTo_shadow (sync : w.InSync) {target : Point} {part : Rect}
    {rule : Nat → Nat → Option Color}
    (ruled : ∀ x y : Nat, x < Canvas.width sink → y < Canvas.height sink →
      ∀ u v : Int, u = x - target.x.val + part.pos.x.val → v = y - target.y.val + part.pos.y.val →
        rule x y
          =
        if part.Covers u v ∧ (Rect.ofSize w.size).Covers u v then
          w.pixels[w.index u.toNat v.toNat]?
        else
          none) :
    w.shadow.copyTo sink target part = Canvas.plotAll sink rule := by
  have on_sink : ∀ x y : Nat, x < Canvas.width sink → y < Canvas.height sink →
      (Rect.ofSize (Canvas.extent sink)).Covers x y := by
    intro x y hx hy
    rw [Rect.covers_ofSize, Canvas.val_extent_x hs, Canvas.val_extent_y hs]
    omega
  unfold FrameBuffer.copyTo
  cases h : Transfer.clip part w.shadow.bounds target (Canvas.bounds sink) with
  | none =>
    apply Eq.symm
    apply Canvas.plotAll_idle
    intro x y hx hy
    rw [ruled x y hx hy _ _ rfl rfl, if_neg]
    exact Transfer.not_covers_of_clip h (on_sink x y hx hy)
  | some t =>
    have clipped : t.Clipped part w.size target (Canvas.extent sink) := Transfer.clipped_of_clip h
    have inside : ∀ x y, x < Canvas.width sink → y < Canvas.height sink → (rule x y).isSome = true →
        (t.target.x.toNat ≤ x ∧ x < t.target.x.toNat + t.columns)
          ∧ t.target.y.toNat ≤ y ∧ y < t.target.y.toNat + t.rows := by
      intro x y hx hy inked
      rw [ruled x y hx hy _ _ rfl rfl] at inked
      split at inked
      . next covered =>
        have lands := (clipped.lands_iff (on_sink x y hx hy)).mp covered
        omega
      . exact absurd inked Bool.false_ne_true
    obtain ⟨source_columns, target_columns⟩ := clipped.columns_fit
    obtain ⟨source_rows, target_rows⟩ := clipped.rows_fit
    rw [toNat_size_x] at source_columns
    rw [toNat_size_y] at source_rows
    rw [Canvas.toNat_extent_x hs] at target_columns
    rw [Canvas.toNat_extent_y hs] at target_rows
    rw [Canvas.plotAll_eq_plotBlock target_columns target_rows inside, Canvas.plotBlock]
    apply Loop.congr (I := SameShape sink)
    . exact (Painted.idle hs).toSameShape
    . intro i _ s shape
      apply shape.trans
      exact LawfulCanvas.shape_copyRow _ _ _ _ _ shape.intact
    . intro i hi s shape
      replace hi : i < t.rows := hi
      show Canvas.copyRow s _ _ (w.shadow.rowBytes _ _ _) w.format = _
      rw [copyRow_shadow shape.intact sync source_columns (by omega) (by rw [shape.width]; omega)
        (by rw [shape.height]; omega)]
      apply Loop.congr (I := fun _ => True)
      . trivial
      . intros
        trivial
      . intro j hj s' _
        replace hj : j < t.columns := hj
        obtain ⟨u_eq, v_eq⟩ := clipped.came_from i j
        have covered := (clipped.lands_iff (on_sink (t.target.x.toNat + j) (t.target.y.toNat + i)
          (by omega) (by omega))).mpr (by omega)
        rw [u_eq, v_eq] at covered
        rw [ruled (t.target.x.toNat + j) (t.target.y.toNat + i) (by omega) (by omega) _ _ u_eq.symm
          v_eq.symm, if_pos covered, Int.toNat_natCast, Int.toNat_natCast]

theorem shift_clip (proper : r.isEmpty = false) :
    (r.shift (-offset)).pos.x.val = r.pos.x.val - offset.x.val
      ∧ (r.shift (-offset)).pos.y.val = r.pos.y.val - offset.y.val
      ∧ ∀ x y : Int,
        (r.shift (-offset)).Covers (x - offset.x.val) (y - offset.y.val) ↔ r.Covers x y := by
  obtain ⟨⟨left, right⟩, top, bottom⟩ := clip_fits hs hr proper
  obtain ⟨width_pos, height_pos⟩ := Rect.isEmpty_eq_false.mp proper
  have : Layout.maxDimension = 8192 := rfl
  have := LawfulCanvas.width_le sink hs
  have := LawfulCanvas.height_le sink hs
  have corner : r.Covers r.pos.x.toNat r.pos.y.toNat := by
    rw [Rect.covers_iff, Coord.toNat, Coord.toNat]
    omega
  -- The window reaches the sink, so that the negation of its offset does not saturate.
  have reached := ((covers_clip hs hr (by rw [Coord.toNat]; omega)
    (by rw [Coord.toNat]; omega)).mp corner).1
  have width_le : w.width ≤ 8192 := w.shadow.valid.width_le
  have height_le : w.height ≤ 8192 := w.shadow.valid.height_le
  rw [Rect.covers_mk, val_size_x, val_size_y, Coord.toNat, Coord.toNat] at reached
  have neg_x : (-offset).x.val = -offset.x.val := by
    rw [Point.x_neg, Coord.val_neg]
    omega
  have neg_y : (-offset).y.val = -offset.y.val := by
    rw [Point.y_neg, Coord.val_neg]
    omega
  have moved_x : (r.pos.x + (-offset).x).val = r.pos.x.val - offset.x.val := by
    rw [Coord.val_add, neg_x]
    omega
  have moved_y : (r.pos.y + (-offset).y).val = r.pos.y.val - offset.y.val := by
    rw [Coord.val_add, neg_y]
    omega
  refine ⟨moved_x, moved_y, ?_⟩
  intro x y
  rw [Rect.covers_shift, neg_x, neg_y, Int.sub_neg, Int.sub_neg, Int.sub_add_cancel,
    Int.sub_add_cancel]
  . rw [moved_x, neg_x]
    rfl
  . rw [moved_y, neg_y]
    rfl

omit hr in
theorem drawInto_unkeyed (sync : w.InSync) (unkeyed : w.key = none) :
    w.drawInto sink offset area = w.drawPlainly sink offset area := by
  obtain ⟨r, hr⟩ : ∃ r, w.clip sink offset area = r := ⟨_, rfl⟩
  have unfolded : ((Rect.mk offset w.size).inter area).inter (Canvas.bounds sink) = r := hr
  unfold drawInto
  rw [unfolded]
  dsimp only
  cases empty : r.isEmpty with
  | true => exact (drawPlainly_of_isEmpty hs hr empty).symm
  | false =>
    rw [if_neg Bool.false_ne_true, unkeyed]
    dsimp only
    obtain ⟨moved_x, moved_y, moved⟩ := shift_clip hs hr empty
    apply copyTo_shadow hs sync
    intro x y hx hy u v hu hv
    have same_u : u = x - offset.x.val := by omega
    have same_v : v = y - offset.y.val := by omega
    subst same_u same_v
    by_cases covered : r.Covers x y
    . obtain ⟨in_window, in_area⟩ := (covers_clip hs hr hx hy).mp covered
      rw [inked?_eq in_area in_window, bind_unkeyed? unkeyed, if_pos]
      refine ⟨(moved x y).mpr covered, ?_⟩
      rw [Rect.covers_mk, val_size_x, val_size_y] at in_window
      rw [Rect.covers_ofSize, val_size_x, val_size_y]
      omega
    . rw [if_neg fun h => covered ((moved x y).mp h.1), ← Option.not_isSome_iff_eq_none]
      intro inked
      exact covered ((covers_clip hs hr hx hy).mpr (covers_of_inked? inked).symm)

omit hr in
theorem drawInto_plain (sync : w.InSync) :
    w.drawInto sink offset area = w.drawPlainly sink offset area := by
  cases key : w.key with
  | none => exact drawInto_unkeyed hs sync key
  | some color => exact drawInto_keyed hs key

omit hr in
theorem painted_drawInto (sync : w.InSync) (offset : Point) (area : Rect) :
    Painted (fun p => w.inked? offset area p.x.val p.y.val) sink (w.drawInto sink offset area) := by
  rw [drawInto_plain hs sync]
  apply (Canvas.painted_plotAll hs _).congr
  intro p seen
  rw [LawfulCanvas.isSome_pixel? _ _ hs, Canvas.contains_bounds hs] at seen
  rw [Coord.toNat, Coord.toNat, Int.toNat_of_nonneg seen.1.1, Int.toNat_of_nonneg seen.2.1]

end

theorem inked?_setKey {key : Color} (unkeyed : w.key = none) (absent : key ∉ w.pixels) (x y : Int) :
    (w.setKey (some key)).inked? offset area x y = w.inked? offset area x y := by
  by_cases covered : area.Covers x y ∧ (Rect.mk offset w.size).Covers x y
  . obtain ⟨in_area, in_window⟩ := covered
    rw [inked?_eq in_area in_window, inked?_eq in_area (by exact in_window)]
    show (w.pixels[w.index (x - offset.x.val).toNat (y - offset.y.val).toNat]?).bind _ = _
    cases stored : w.pixels[w.index (x - offset.x.val).toNat (y - offset.y.val).toNat]? with
    | none => rfl
    | some color =>
      have other : key ≠ color := by
        rintro rfl
        exact absent (Array.mem_of_getElem? stored)
      simp [unkeyed?, unkeyed, setKey, other]
  . have blank : ∀ w' : Window, w'.size = w.size → w'.inked? offset area x y = none := by
      intro w' same
      rw [← Option.not_isSome_iff_eq_none]
      intro inked
      apply covered
      rw [← same]
      exact covers_of_inked? inked
    rw [blank w rfl, blank (w.setKey (some key)) rfl]

structure Drawn {σ : Type} [Canvas σ] [Readable σ] (w : Window) (sink : σ) (offset : Point)
    (area : Rect) : Prop where
  plain : w.drawInto sink offset area = w.drawPlainly sink offset area
  either_way : ∀ key, w.key = none → key ∉ w.pixels →
    w.drawInto sink offset area = (w.setKey (some key)).drawInto sink offset area
  key_left_out : ∀ p key, w.key = some key → w.pixel? (p - offset) = some key →
    Readable.pixel? (w.drawInto sink offset area) p = Readable.pixel? sink p

theorem drawn {σ : Type} [Canvas σ] [LawfulCanvas σ] {sink : σ} (hs : Intact sink)
    (sync : w.InSync) (offset : Point) (area : Rect) : w.Drawn sink offset area where
  plain := drawInto_plain hs sync
  either_way key unkeyed absent := by
    have sync' : (w.setKey (some key)).InSync := sync
    have same_rule : (fun x y : Nat => (w.setKey (some key)).inked? offset area x y)
        = fun x y : Nat => w.inked? offset area x y := by
      funext x y
      exact inked?_setKey unkeyed absent x y
    rw [drawInto_plain hs sync, drawInto_plain hs sync', drawPlainly, drawPlainly, same_rule]
  key_left_out p key keyed has_key := by
    have skipped : w.inked? offset area p.x.val p.y.val = none := by
      unfold inked? shown?
      split
      . split
        . show (w.pixel? (p - offset)).bind _ = none
          rw [has_key, Option.bind_some, unkeyed?, if_pos keyed]
        . rfl
      . rfl
    rw [(painted_drawInto hs sync offset area).pixel, skipped]
    cases Readable.pixel? sink p <;> rfl

theorem drawn_on_every_sink (reachable : w.Reachable) (offset : Point) (area : Rect) :
    (∀ sink : FrameBuffer, w.Drawn sink offset area)
      ∧ (∀ sink : Screen, w.Drawn sink offset area)
      ∧ ∀ sink : Window, w.Drawn sink offset area := by
  refine ⟨?_, ?_, ?_⟩
  . intro sink
    exact drawn trivial reachable.inSync offset area
  . intro sink
    exact drawn trivial reachable.inSync offset area
  . intro sink
    exact drawn trivial reachable.inSync offset area

theorem drawn_on_every_sink_off_edge :
    ∃ w : Window, w.Reachable ∧ w.key = some .white
      ∧ ∀ sink : FrameBuffer, w.Drawn sink ⟨-1, 2⟩ ⟨⟨-2147483648, 0⟩, ⟨2147483647, 2147483647⟩⟩ := by
  have reachable : Reachable _ :=
    ⟨3, 2, .bgr888, _, [.stroke (.pixel 1 1 .white), .setKey (some .white)], rfl, rfl⟩
  exact ⟨_, reachable, rfl, (drawn_on_every_sink reachable _ _).1⟩

end Window
end Overlay
