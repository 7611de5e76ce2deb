import Overlay.Proofs.Surface.Copy
import Overlay.Proofs.Surface.Screen
import Overlay.Proofs.Surface.Window

/-!
This module contains copies of areas from one surface to the next. A copy brings each pixel to the place
that exact integers give, in the colour that it has, whatever the formats and the pitches, so that it also
comes through a row of buffers unchanged.
-/

namespace Overlay

open Readable

structure Brings (bounds : Rect) (target : Point) (area : Rect) (q p : Point) : Prop where
  x : q.x.val = p.x.val - target.x.val + area.pos.x.val
  y : q.y.val = p.y.val - target.y.val + area.pos.y.val
  in_area : area.contains q = true
  in_source : bounds.contains q = true

namespace Brings

variable {size target p q : Point} {area : Rect}

theorem covers (brings : Brings (.ofSize size) target area q p) :
    area.Covers (p.x.val - target.x.val + area.pos.x.val) (p.y.val - target.y.val + area.pos.y.val)
      ∧ (Rect.ofSize size).Covers (p.x.val - target.x.val + area.pos.x.val)
          (p.y.val - target.y.val + area.pos.y.val) := by
  have in_source := brings.in_source
  rw [Rect.contains_ofSize] at in_source
  have inside := Rect.covers_ofSize.mp in_source
  have := size.x.le_greatest
  have := size.y.le_greatest
  rw [← brings.x, ← brings.y]
  exact ⟨(Rect.contains_iff_covers (by omega) (by omega)).mp brings.in_area, in_source⟩

theorem exists_of_covers
    (in_area : area.Covers (p.x.val - target.x.val + area.pos.x.val)
      (p.y.val - target.y.val + area.pos.y.val))
    (in_source : (Rect.ofSize size).Covers (p.x.val - target.x.val + area.pos.x.val)
      (p.y.val - target.y.val + area.pos.y.val)) :
    ∃ q, Brings (.ofSize size) target area q p := by
  have inside := Rect.covers_ofSize.mp in_source
  have := size.x.le_greatest
  have := size.y.le_greatest
  let q : Point := ⟨.clamp (p.x.val - target.x.val + area.pos.x.val),
    .clamp (p.y.val - target.y.val + area.pos.y.val)⟩
  have x : q.x.val = p.x.val - target.x.val + area.pos.x.val := Coord.val_clamp_of_fits (by omega)
  have y : q.y.val = p.y.val - target.y.val + area.pos.y.val := Coord.val_clamp_of_fits (by omega)
  refine ⟨q, x, y, ?_, ?_⟩
  . rw [Rect.contains_iff_covers (by omega) (by omega), x, y]
    exact in_area
  . rw [Rect.contains_ofSize, x, y]
    exact in_source

end Brings

structure Copied {σ : Type} [Canvas σ] [Readable σ] (fb : FrameBuffer) (target : Point) (area : Rect)
    (s s' : σ) : Prop extends SameShape s s' where
  brought : ∀ q p, Brings fb.bounds target area q p → (Canvas.bounds s).contains p = true →
    pixel? s' p = fb.pixel? q
  kept : ∀ p, (∀ q, Brings fb.bounds target area q p → (Canvas.bounds s).contains p = false) →
    pixel? s' p = pixel? s p
  padding : ∀ i, padding? s' i = padding? s i

namespace FrameBuffer

variable {fb fb' : FrameBuffer} {target p q : Point} {area : Rect}

theorem sent?_of_brings (brings : Brings fb.bounds target area q p) :
    fb.sent? target area p = fb.pixel? q := by
  have covered := Brings.covers brings
  rw [sent?, if_pos covered.1, ← brings.x, ← brings.y, Coord.clamp_val, Coord.clamp_val]

theorem exists_brings (sent : (fb.sent? target area p).isSome = true) :
    ∃ q, Brings fb.bounds target area q p := by
  obtain ⟨in_area, on_source⟩ := covers_of_sent? sent
  exact Brings.exists_of_covers in_area on_source

section

variable {σ τ : Type} [Canvas σ] [LawfulCanvas σ] [Canvas τ] [LawfulCanvas τ] {s : σ} {t : τ}

theorem copied_copyTo (hs : Intact s) (fb : FrameBuffer) (target : Point) (area : Rect) :
    Copied fb target area s (fb.copyTo s target area) := by
  have painted := painted_copyTo hs fb target area
  have seen_iff := fun p => LawfulCanvas.isSome_pixel? s p hs
  refine ⟨painted.toSameShape, ?_, ?_, painted.padding⟩
  . intro q p brings seen
    rw [← seen_iff, Option.isSome_iff_exists] at seen
    obtain ⟨old, seen⟩ := seen
    have source : (fb.pixel? q).isSome = true := by
      rw [← brings.in_source]
      exact LawfulCanvas.isSome_pixel? fb q trivial
    obtain ⟨color, source⟩ := Option.isSome_iff_exists.mp source
    rw [painted.pixel, seen, sent?_of_brings brings, source]
    rfl
  . intro p free
    rw [painted.pixel]
    cases sent : fb.sent? target area p with
    | none => exact Option.map_id_apply
    | some color =>
      have inked : (fb.sent? target area p).isSome = true := by
        rw [sent]
        rfl
      obtain ⟨q, brings⟩ := exists_brings inked
      have unseen := free q brings
      rw [← seen_iff, Option.isSome_eq_false_iff, Option.isNone_iff_eq_none] at unseen
      rw [unseen]
      rfl

theorem pixel?_copyTo_congr (hs : Intact s) (ht : Intact t) (source : ∀ p, fb'.pixel? p = fb.pixel? p)
    (sink : ∀ p, Readable.pixel? t p = Readable.pixel? s p) (target : Point) (area : Rect) (p : Point) :
    Readable.pixel? (fb'.copyTo t target area) p = Readable.pixel? (fb.copyTo s target area) p := by
  rw [(painted_copyTo ht fb' target area).pixel, (painted_copyTo hs fb target area).pixel, sink,
    sent?, sent?, source]

end

structure Hop where
  sink : FrameBuffer
  target : Point
  area : Rect

def relay (fb : FrameBuffer) (hops : List Hop) : FrameBuffer :=
  hops.foldl (fun fb hop => fb.copyTo hop.sink hop.target hop.area) fb

inductive Passes : Rect → List Hop → Point → Point → Prop where
  | rest {bounds : Rect} {p : Point} : Passes bounds [] p p
  | hop {bounds : Rect} {hop : Hop} {hops : List Hop} {q r p : Point}
    (brings : Brings bounds hop.target hop.area q r) (seen : hop.sink.bounds.contains r = true)
    (passes : Passes hop.sink.bounds hops r p) : Passes bounds (hop :: hops) q p

theorem pixel?_relay {hops : List Hop} (passes : Passes fb.bounds hops q p) :
    (fb.relay hops).pixel? p = fb.pixel? q := by
  induction hops generalizing fb q with
  | nil =>
    cases passes
    rfl
  | cons hop hops ih =>
    cases passes with
    | hop brings seen passes =>
      have copied := copied_copyTo (s := hop.sink) trivial fb hop.target hop.area
      have bounds : (fb.copyTo hop.sink hop.target hop.area).bounds = hop.sink.bounds :=
        copied.toSameShape.bounds
      rw [← bounds] at passes
      exact (ih passes).trans (copied.brought _ _ brings seen)

/-- A copy is exact on each kind of surface that can be read back, it does not depend on how the colours
are stored, and through any row of buffers the pixels come in the colours that they had. -/
theorem copyTo_exact (fb : FrameBuffer) (target : Point) (area : Rect) :
    (∀ sink : FrameBuffer, Copied fb target area sink (fb.copyTo sink target area))
      ∧ (∀ sink : Screen, Copied fb target area sink (fb.copyTo sink target area))
      ∧ (∀ sink : Window, Copied fb target area sink (fb.copyTo sink target area))
      ∧ (∀ fb' sink sink' : FrameBuffer, (∀ p, fb'.pixel? p = fb.pixel? p) →
        (∀ p, sink'.pixel? p = sink.pixel? p) →
        ∀ p, (fb'.copyTo sink' target area).pixel? p = (fb.copyTo sink target area).pixel? p)
      ∧ ∀ hops q p, Passes fb.bounds hops q p → (fb.relay hops).pixel? p = fb.pixel? q := by
  refine ⟨?_, ?_, ?_, ?_, ?_⟩
  . intro sink
    exact copied_copyTo trivial fb target area
  . intro sink
    exact copied_copyTo trivial fb target area
  . intro sink
    exact copied_copyTo trivial fb target area
  . intro fb' sink sink' source same p
    exact pixel?_copyTo_congr (s := sink) (t := sink') trivial trivial source same target area p
  . intro hops q p passes
    exact pixel?_relay passes

theorem copyTo_exact_through_formats :
    ∃ (fb : FrameBuffer) (hops : List Hop),
      fb.layout.format = .rgb888 ∧ hops.map (·.sink.layout.format) = [.bgrx8888, .bgr888]
        ∧ Passes fb.bounds hops ⟨1, 1⟩ ⟨0, 2⟩ ∧ (fb.relay hops).pixel? ⟨0, 2⟩ = some ⟨7, 8, 9⟩ := by
  let fb : FrameBuffer :=
    ⟨⟨2, 2, 7, .rgb888⟩, ⟨#[0, 0, 0, 0, 0, 0, 0, 0, 0, 0, 7, 8, 9, 0]⟩, by decide, by decide⟩
  let first : FrameBuffer :=
    ⟨⟨3, 2, 20, .bgrx8888⟩, Storage.zeros 40, by decide, Storage.size_zeros 40⟩
  let second : FrameBuffer := ⟨⟨1, 3, 3, .bgr888⟩, Storage.zeros 9, by decide, Storage.size_zeros 9⟩
  let hops : List Hop := [⟨first, ⟨0, -2⟩, ⟨⟨-1, -1⟩, ⟨5, 5⟩⟩⟩, ⟨second, ⟨-2, 2⟩, ⟨.origin, ⟨9, 9⟩⟩⟩]
  have to_first : Brings fb.bounds ⟨0, -2⟩ ⟨⟨-1, -1⟩, ⟨5, 5⟩⟩ ⟨1, 1⟩ ⟨2, 0⟩ :=
    ⟨by decide, by decide, by decide, by decide⟩
  have to_second : Brings first.bounds ⟨-2, 2⟩ ⟨.origin, ⟨9, 9⟩⟩ ⟨2, 0⟩ ⟨0, 2⟩ :=
    ⟨by decide, by decide, by decide, by decide⟩
  have passes : Passes fb.bounds hops ⟨1, 1⟩ ⟨0, 2⟩ :=
    .hop to_first (by decide) (.hop to_second (by decide) .rest)
  have arrived := (copyTo_exact fb .origin .empty).2.2.2.2 hops ⟨1, 1⟩ ⟨0, 2⟩ passes
  refine ⟨fb, hops, rfl, rfl, passes, ?_⟩
  rw [arrived]
  decide +kernel

end FrameBuffer
end Overlay
