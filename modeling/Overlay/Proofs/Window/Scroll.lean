import Overlay.Proofs.Canvas.Shapes
import Overlay.Proofs.Surface.Move
import Overlay.Proofs.Surface.Plot

/-!
This module contains scrolling. A window is moved up within itself, and the rows that this uncovers are filled,
in its colours and in its shadow alike. What one step uncovers the next one moves on, so that two steps leave
the same window as a single one over their sum.
-/

namespace Overlay

open Readable
open Canvas (fillRect plotAll)

/-- What becomes of a picture that is raised by some rows over an endless ground. -/
def Raised {β : Type} (size : Point) (rows : Coord) (ground : β) (before after : Point → β) : Prop :=
  ∀ p, (Rect.ofSize size).contains p = true →
    after p = if p.y.val + rows.val < size.y.val then before ⟨p.x, p.y + rows⟩ else ground

namespace Raised

variable {β : Type} {size : Point} {rows rows' : Coord} {ground : β} {plane plane' plane'' : Point → β}

theorem source {p : Point} (up : 0 ≤ rows.val) (seen : (Rect.ofSize size).contains p = true)
    (below : p.y.val + rows.val < size.y.val) :
    (p.y + rows).val = p.y.val + rows.val ∧ (Rect.ofSize size).contains ⟨p.x, p.y + rows⟩ = true := by
  have inside := Rect.covers_ofSize.mp (Rect.contains_ofSize.mp seen)
  have := size.y.le_greatest
  have source : (p.y + rows).val = p.y.val + rows.val := by
    rw [Coord.val_add]
    omega
  rw [Rect.contains_ofSize, Rect.covers_ofSize, source]
  exact ⟨rfl, inside.1, by omega, below⟩

theorem unique (raised : Raised size rows ground plane plane') (raised' : Raised size rows ground plane plane'')
    {p : Point} (seen : (Rect.ofSize size).contains p = true) : plane' p = plane'' p :=
  (raised p seen).trans (raised' p seen).symm

theorem idle : Raised size 0 ground plane plane := by
  intro p seen
  rw [Rect.contains_ofSize, Rect.covers_ofSize] at seen
  have still : p.y + 0 = p.y := by
    have := p.y.le_greatest
    rw [Coord.ext_iff, Coord.val_add, Coord.val_zero]
    omega
  rw [still, Coord.val_zero, if_pos (by omega)]

theorem blank (past : size.y.val ≤ rows.val)
    (filled : ∀ p, (Rect.ofSize size).contains p = true → plane' p = ground) :
    Raised size rows ground plane plane' := by
  intro p seen
  rw [filled p seen, if_neg]
  rw [Rect.contains_ofSize, Rect.covers_ofSize] at seen
  omega

theorem trans (up : 0 ≤ rows.val) (up' : 0 ≤ rows'.val) (raised : Raised size rows ground plane plane')
    (raised' : Raised size rows' ground plane' plane'') :
    Raised size (rows + rows') ground plane plane'' := by
  intro p seen
  have inside := Rect.covers_ofSize.mp (Rect.contains_ofSize.mp seen)
  have := size.y.le_greatest
  rw [raised' p seen, Coord.val_add]
  by_cases below : p.y.val + rows'.val < size.y.val
  . obtain ⟨next, seen'⟩ := source up' seen below
    have sum : p.y + rows' + rows = p.y + (rows + rows') := by
      rw [Coord.ext_iff, Coord.val_add, next, Coord.val_add, Coord.val_add]
      omega
    rw [if_pos below, raised _ seen', next, sum]
    by_cases further : p.y.val + rows'.val + rows.val < size.y.val
    . rw [if_pos further, if_pos (by omega)]
    . rw [if_neg further, if_neg (by omega)]
  . rw [if_neg below, if_neg (by omega)]

theorem of_moved (up : 0 < rows.val) (rest : rows.val < size.y.val)
    (brought : ∀ q p, Brings (.ofSize size) .origin ⟨⟨0, rows⟩, ⟨size.x, size.y - rows⟩⟩ q p →
      (Rect.ofSize size).contains p = true → plane' p = plane q)
    (filled : ∀ p, (Rect.ofSize size).contains p = true →
      plane'' p
        =
      if (Rect.mk ⟨0, size.y - rows⟩ ⟨size.x, rows⟩).contains p = true then ground else plane' p) :
    Raised size rows ground plane plane'' := by
  intro p seen
  have inside := Rect.covers_ofSize.mp (Rect.contains_ofSize.mp seen)
  have := size.x.le_greatest
  have := size.y.le_greatest
  have top : (size.y - rows).val = size.y.val - rows.val := by
    rw [Coord.val_sub]
    omega
  have uncovered : (Rect.mk ⟨0, size.y - rows⟩ ⟨size.x, rows⟩).contains p = true
      ↔ ¬p.y.val + rows.val < size.y.val := by
    rw [Rect.contains_iff_covers (by omega) (by omega), Rect.covers_mk]
    dsimp only
    rw [top, Coord.val_zero]
    omega
  rw [filled p seen]
  by_cases below : p.y.val + rows.val < size.y.val
  . obtain ⟨source, seen'⟩ := source (Int.le_of_lt up) seen below
    rw [if_neg (by rw [uncovered]; exact not_not_intro below), if_pos below]
    refine brought _ p ⟨?_, ?_, ?_, seen'⟩ seen
    . show p.x.val = p.x.val - 0 + 0
      omega
    . show (p.y + rows).val = p.y.val - 0 + rows.val
      omega
    . rw [Rect.contains_iff_covers (by dsimp only; omega) (by dsimp only; omega), Rect.covers_mk]
      dsimp only
      rw [top, source, Coord.val_zero]
      omega
  . rw [if_pos (uncovered.mpr below), if_neg below]

end Raised

namespace Window

variable {w w' w'' : Window} {rows rows' : Coord} {fill : Color}

theorem padding?_shadow (w : Window) (i : Nat) : padding? w.shadow i = none := by
  show (if w.shadow.layout.Padding i then _ else none) = none
  rw [if_neg]
  intro padding
  have bpp : 0 < w.shadow.layout.bytesPerPixel := w.shadow.layout.format.bytesPerPixel_pos
  have pitch_pos : 0 < w.shadow.layout.pitch := by
    rw [w.shadow_packed]
    exact Nat.mul_pos w.shadow.valid.width_pos bpp
  have := Nat.mod_lt i pitch_pos
  rw [Layout.Padding, ← w.shadow_packed] at padding
  omega

theorem key_moveRect (w : Window) (target : Point) (area : Rect) : (w.moveRect target area).key = w.key := by
  unfold moveRect
  split <;> rfl

section

variable (w) (rect : Rect) (color : Color)

theorem layout_fillRect : (fillRect w rect color).shadow.layout = w.shadow.layout :=
  (kept_layout w.shadow.layout).fillRect rfl rect color

theorem key_fillRect : (fillRect w rect color).key = w.key :=
  (kept_key w.key).fillRect rfl rect color

variable {w} {p : Point} (seen : w.bounds.contains p = true)
include seen

theorem pixel?_fillRect :
    (fillRect w rect color).pixel? p = if rect.contains p = true then some color else w.pixel? p := by
  have after := (Canvas.painted_fillRect (s := w) trivial color rect).pixel p
  have there : (w.pixel? p).isSome = true := (LawfulCanvas.isSome_pixel? w p trivial).trans seen
  obtain ⟨old, read⟩ := Option.isSome_iff_exists.mp there
  rw [readable_pixel?, readable_pixel?, read, Option.map_some, Picture.fill] at after
  rw [after, read]
  split <;> rfl

theorem byteAt?_fillRect {k : Nat} (hk : k < w.shadow.layout.bytesPerPixel) :
    (fillRect w rect color).shadow.byteAt? p.x.toNat p.y.toNat k
      =
    if rect.contains p = true then (w.format.encode color)[k]? else w.shadow.byteAt? p.x.toNat p.y.toNat k := by
  have shadow : (fillRect w rect color).shadow = fillRect w.shadow rect color := by
    apply related_shadow.fillRect
    . rfl
    . rintro w _ x y color rfl
      exact shadow_writePixel w x y color
  obtain ⟨⟨x_nonneg, hx⟩, y_nonneg, hy⟩ := contains_bounds.mp seen
  have place : Point.mk (.clamp p.x.toNat) (.clamp p.y.toNat) = p := by
    rw [Coord.toNat, Coord.toNat, Int.toNat_of_nonneg x_nonneg, Int.toNat_of_nonneg y_nonneg, Coord.clamp_val,
      Coord.clamp_val]
  have column : p.x.toNat < w.shadow.layout.width := (Int.toNat_lt x_nonneg).mpr hx
  have row : p.y.toNat < w.shadow.layout.height := (Int.toNat_lt y_nonneg).mpr hy
  have after := (FrameBuffer.encoded_plotAll w.shadow fun x y =>
    Picture.fill (rect.contains · = true) color ⟨.clamp x, .clamp y⟩).byte _ _ k column row hk
  rw [place] at after
  rw [shadow, Canvas.fillRect_eq_render (s := w.shadow) trivial, Canvas.render, after, Picture.fill]
  by_cases hit : rect.contains p = true
  . simp only [if_pos hit, format]
  . simp only [if_neg hit]

end

structure Scrolled (rows : Coord) (fill : Color) (w w' : Window) : Prop where
  layout : w'.shadow.layout = w.shadow.layout
  key : w'.key = w.key
  colors : Raised w.size rows (some fill) w.pixel? w'.pixel?
  bytes : ∀ k, k < w.shadow.layout.bytesPerPixel →
    Raised w.size rows (w.format.encode fill)[k]? (fun p => w.shadow.byteAt? p.x.toNat p.y.toNat k)
      fun p => w'.shadow.byteAt? p.x.toNat p.y.toNat k

namespace Scrolled

theorem idle : Scrolled 0 fill w w where
  layout := rfl
  key := rfl
  colors := .idle
  bytes _ _ := .idle

theorem trans (up : 0 ≤ rows.val) (up' : 0 ≤ rows'.val) (scrolled : Scrolled rows fill w w')
    (scrolled' : Scrolled rows' fill w' w'') : Scrolled (rows + rows') fill w w'' where
  layout := scrolled'.layout.trans scrolled.layout
  key := scrolled'.key.trans scrolled.key
  colors := by
    have further := scrolled'.colors
    rw [size, scrolled.layout] at further
    exact scrolled.colors.trans up up' further
  bytes k hk := by
    have further := scrolled'.bytes k
    rw [size, format, scrolled.layout] at further
    exact (scrolled.bytes k hk).trans up up' (further hk)

theorem unique (scrolled : Scrolled rows fill w w') (scrolled' : Scrolled rows fill w w'') : w' = w'' := by
  have shadow : w'.shadow = w''.shadow := by
    apply FrameBuffer.eq_of_byteAt (scrolled.layout.trans scrolled'.layout.symm)
    . intro x y k hx hy hk
      rw [scrolled.layout] at hx hy hk
      obtain ⟨p, x_val, y_val, seen⟩ := w.shadow.valid.exists_point hx hy
      have same := (scrolled.bytes k hk).unique (scrolled'.bytes k hk) seen
      rw [Coord.toNat, Coord.toNat, x_val, y_val] at same
      exact same
    . intro i
      rw [padding?_shadow, padding?_shadow]
  apply eq_of_pixels shadow (scrolled.key.trans scrolled'.key.symm)
  intro p seen
  rw [bounds, size, scrolled'.layout] at seen
  exact scrolled.colors.unique scrolled'.colors seen

end Scrolled

theorem scrolled_clear (past : w.size.y.val ≤ rows.val) (fill : Color) :
    Scrolled rows fill w (Canvas.clear w fill) := by
  rw [Canvas.clear]
  refine ⟨layout_fillRect .., key_fillRect .., .blank past ?_, fun k hk => .blank past ?_⟩
  . intro p seen
    rw [pixel?_fillRect _ fill seen, if_pos]
    exact seen
  . intro p seen
    rw [byteAt?_fillRect _ fill seen hk, if_pos]
    exact seen

theorem scrolled_moved (up : 0 < rows.val) (rest : rows.val < w.size.y.val) (fill : Color) :
    Scrolled rows fill w
      (fillRect (w.moveRect .origin ⟨⟨0, rows⟩, ⟨w.size.x, w.size.y - rows⟩⟩)
        ⟨⟨0, w.size.y - rows⟩, ⟨w.size.x, rows⟩⟩ fill) := by
  obtain ⟨moved, moved_eq⟩ :
      ∃ moved, moved = w.moveRect .origin ⟨⟨0, rows⟩, ⟨w.size.x, w.size.y - rows⟩⟩ := ⟨_, rfl⟩
  have layout : moved.shadow.layout = w.shadow.layout := by rw [moved_eq, layout_moveRect]
  have bounds : moved.bounds = w.bounds := by
    rw [Window.bounds, Window.size, layout, Window.bounds, Window.size]
  have colors := (shifted_moveRect w .origin ⟨⟨0, rows⟩, ⟨w.size.x, w.size.y - rows⟩⟩).brought
  have bytes := (w.shadow.bytesShifted_moveRect .origin ⟨⟨0, rows⟩, ⟨w.size.x, w.size.y - rows⟩⟩).brought
  rw [← moved_eq] at colors
  rw [← shadow_moveRect, ← moved_eq] at bytes
  rw [← moved_eq]
  constructor
  . rw [layout_fillRect, layout]
  . rw [key_fillRect, moved_eq, key_moveRect]
  . apply Raised.of_moved up rest colors
    intro p seen
    apply pixel?_fillRect
    rw [bounds]
    exact seen
  . intro k hk
    apply Raised.of_moved up rest fun q p brings seen => bytes q p k brings seen hk
    intro p seen
    rw [format, ← layout]
    apply byteAt?_fillRect
    . rw [bounds]
      exact seen
    . rw [layout]
      exact hk

theorem scrollUp_of_nonpos (still : rows.val ≤ 0) (w : Window) (fill : Color) : w.scrollUp rows fill = w := by
  rw [scrollUp, if_pos]
  exact still

theorem scrolled_scrollUp (up : 0 ≤ rows.val) (w : Window) (fill : Color) :
    Scrolled rows fill w (w.scrollUp rows fill) := by
  by_cases still : rows.val ≤ 0
  . obtain rfl : rows = 0 := Coord.ext (Int.le_antisymm still up)
    rw [scrollUp_of_nonpos still]
    exact .idle
  . have moves : ¬rows ≤ 0 := still
    rw [scrollUp, if_neg moves]
    by_cases past : w.size.y ≤ rows
    . rw [if_pos past]
      exact scrolled_clear (Coord.le_def.mp past) fill
    . rw [if_neg past]
      rw [Coord.le_def] at past
      exact scrolled_moved (by omega) (by omega) fill

theorem Scrolled.shadow (scrolled : Scrolled rows fill w w') (up : 0 ≤ rows.val) :
    Raised w.size rows (some fill) w.shadow.pixel? w'.shadow.pixel? := by
  intro p seen
  have bpp : 3 ≤ w.shadow.layout.bytesPerPixel := w.shadow.layout.format.three_le_bytesPerPixel
  have seen' : w'.shadow.bounds.contains p = true := by
    rw [FrameBuffer.bounds, scrolled.layout]
    exact seen
  by_cases below : p.y.val + rows.val < w.size.y.val
  . rw [if_pos below]
    apply FrameBuffer.pixel?_of_bytes (by rw [scrolled.layout]) seen' (Raised.source up seen below).2
    intro k hk
    exact (scrolled.bytes k (by omega) p seen).trans (if_pos below)
  . rw [if_neg below]
    apply FrameBuffer.pixel?_of_encode seen'
    intro k hk
    rw [scrolled.layout]
    exact (scrolled.bytes k (by omega) p seen).trans (if_neg below)

structure ScrollLaws (w : Window) (fill : Color) : Prop where
  layout : ∀ rows, (w.scrollUp rows fill).shadow.layout = w.shadow.layout
  key : ∀ rows, (w.scrollUp rows fill).key = w.key
  colors : ∀ rows : Coord, 0 < rows → ∀ p, w.bounds.contains p = true →
    (w.scrollUp rows fill).pixel? p
      =
    if p.y.val + rows.val < w.height then w.pixel? ⟨p.x, p.y + rows⟩ else some fill
  shadow : ∀ rows : Coord, 0 < rows → ∀ p, w.bounds.contains p = true →
    (w.scrollUp rows fill).shadow.pixel? p
      =
    if p.y.val + rows.val < w.height then w.shadow.pixel? ⟨p.x, p.y + rows⟩ else some fill
  bytes : ∀ rows : Coord, 0 < rows → ∀ p, w.bounds.contains p = true →
    ∀ k, k < w.format.bytesPerPixel →
      (w.scrollUp rows fill).shadow.byteAt? p.x.toNat p.y.toNat k
        =
      if p.y.val + rows.val < w.height then w.shadow.byteAt? p.x.toNat (p.y + rows).toNat k
      else (w.format.encode fill)[k]?
  still : ∀ rows : Coord, rows ≤ 0 → w.scrollUp rows fill = w
  joined : ∀ a b : Coord, 0 ≤ a → 0 ≤ b →
    (w.scrollUp a fill).scrollUp b fill = w.scrollUp (a + b) fill

/-- A scroll takes each pixel from as many rows below as it goes up, and fills what comes from below the last
row. The sum of two scrolls may be any number of rows, and is as good as the two. -/
theorem scrollUp_exact (w : Window) (fill : Color) : ScrollLaws w fill := by
  have scrolled (rows : Coord) (up : 0 < rows) : Scrolled rows fill w (w.scrollUp rows fill) :=
    scrolled_scrollUp (Int.le_of_lt up) w fill
  constructor
  . intro rows
    exact layout_edit w (.scroll rows fill)
  . intro rows
    by_cases up : 0 < rows.val
    . exact (scrolled rows up).key
    . rw [scrollUp_of_nonpos (by omega)]
  . intro rows up p seen
    rw [← val_size_y]
    exact (scrolled rows up).colors p seen
  . intro rows up p seen
    rw [← val_size_y]
    exact (scrolled rows up).shadow (Int.le_of_lt up) p seen
  . intro rows up p seen k hk
    rw [← val_size_y]
    exact (scrolled rows up).bytes k hk p seen
  . intro rows still
    exact scrollUp_of_nonpos still w fill
  . intro a b up up'
    have first := scrolled_scrollUp up w fill
    have second := scrolled_scrollUp up' (w.scrollUp a fill) fill
    have sum : 0 ≤ (a + b).val := by
      rw [Coord.le_def, Coord.val_zero] at up up'
      rw [Coord.val_add]
      omega
    exact (first.trans up up' second).unique (scrolled_scrollUp sum w fill)

end Window
end Overlay
