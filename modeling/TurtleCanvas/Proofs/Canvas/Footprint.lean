import Mathlib.Data.Finset.Prod
import Mathlib.Data.Finset.Range
import TurtleCanvas.Canvas.Paint
import TurtleCanvas.Proofs.Action
import TurtleCanvas.Proofs.Picture

/-!
# Where painting calls paint

A painting call is a geometry and a colour.  The geometry alone says which pixels of a canvas of a
given size the call paints.

* `Geometry` is all of a painting call but its colour, and `Geometry.footprint` the pixels that it
  paints;
* `Geometry.painted` is what a call paints and in which colour, if it paints at all;
* `Canvas.perform_of_painted` and `Canvas.after_of_not_painted` say what a call does: for colours
  that fit bytes nothing but the size of the canvas has a say in it;
* `Canvas.size_perform` says that no call changes the size of the canvas, whatever its colour.
-/

namespace TurtleCanvas

/-- A colour that can be read has components that can be stored in a byte. -/
def Ink.Fits (ink : Ink) : Prop := ∀ colour, ink = .ok colour → colour.FitsBytes

instance (ink : Ink) : Decidable ink.Fits :=
  match ink with
  | .ok colour => decidable_of_iff colour.FitsBytes (by simp [Ink.Fits])
  | .error _ => isTrue fun _ h => nomatch h

namespace Canvas

variable {α : Type} [Scalar α]

theorem pixelAt_eq_some_iff {width height i j : Nat} {x y : α} :
    pixelAt width height x y = .ok (some (i, j)) ↔ (i < width ∧ j < height) ∧
      (Scalar.round x : Except Fault Int) = .ok i ∧
      (Scalar.round y : Except Fault Int) = .ok j := by
  unfold pixelAt
  simp only [Except.bind_eq_ok_iff]
  constructor
  · rintro ⟨m, hx, n, hy, h⟩
    split_ifs at h with hmn
    · simp only [pure, Except.pure, Except.ok.injEq, Option.some.injEq, Prod.mk.injEq] at h
      rw [hx, hy, ← h.1, ← h.2, Int.toNat_of_nonneg hmn.1.1, Int.toNat_of_nonneg hmn.2.1]
      exact ⟨⟨by omega, by omega⟩, rfl, rfl⟩
    · simp [pure, Except.pure] at h
  · rintro ⟨⟨hi, hj⟩, hx, hy⟩
    refine ⟨i, hx, j, hy, ?_⟩
    rw [if_pos ⟨⟨by omega, by omega⟩, by omega, by omega⟩]
    rfl

end Canvas

/-- All of a painting call but its colour. -/
inductive Geometry (α : Type) where
  | pixel (x y : α)
  | line (s : Segment α) (penWidth : Except Fault Int)
  | dot (x y diameter : α)

namespace Geometry

variable {α : Type}

/-- The call that paints in a colour. -/
def inked (ink : Ink) : Geometry α → Paint α
  | pixel x y => .pixel x y ink
  | line s penWidth => .line s ink penWidth
  | dot x y diameter => .dot x y diameter ink

variable [Scalar α]

/-- The runs of pixels that are painted on a canvas of a size: none at all when the pixel is not on
the canvas, the line has been clipped away or the dot cannot reach the canvas. -/
def spans (width height : Nat) : Geometry α → Except Fault (Option (List Span))
  | pixel x y => do
    match ← Canvas.pixelAt width height x y with
    | none => return none
    | some (i, j) => return some [.ofPoint ⟨i, j⟩]
  | line s penWidth => do
    match ← Canvas.lineShape width height s (← penWidth) with
    | none => return none
    | some shape => return some (← shape.spans width height)
  | dot x y diameter => do
    match ← Canvas.dotShape width height x y diameter with
    | none => return none
    | some shape => return some (← shape.spans width height)

/-- The pixels of a canvas of a size that are painted. -/
def footprint (width height : Nat) (g : Geometry α) : Finset (Nat × Nat) :=
  match g.spans width height with
  | .ok (some spans) =>
    (Finset.range width ×ˢ Finset.range height).filter fun p => Span.Covers spans p.1 p.2
  | _ => ∅

/-- What a call paints on a canvas of a size, and in which colour: nothing when there is nothing to
paint or when it fails. -/
def painted (width height : Nat) (g : Geometry α) (ink : Ink) : Option (List Span × Colour) :=
  match g.spans width height, ink with
  | .ok (some spans), .ok colour => some (spans, colour)
  | _, _ => none

theorem painted_eq_some_iff {width height : Nat} {g : Geometry α} {ink : Ink} {spans : List Span}
    {colour : Colour} : g.painted width height ink = some (spans, colour) ↔
      g.spans width height = .ok (some spans) ∧ ink = .ok colour := by
  unfold painted
  cases g.spans width height with
  | error e => simp
  | ok planned =>
    cases planned with
    | none => simp
    | some spans => cases ink <;> simp

theorem mem_footprint_iff {width height x y : Nat} {g : Geometry α} :
    (x, y) ∈ g.footprint width height ↔ (x < width ∧ y < height) ∧
      ∃ spans, g.spans width height = .ok (some spans) ∧ Span.Covers spans x y := by
  unfold footprint
  split
  · rename_i spans h
    simp only [Finset.mem_filter, Finset.mem_product, Finset.mem_range, h, Except.ok.injEq,
      Option.some.injEq, exists_eq_left']
  · rename_i h
    refine ⟨fun e => absurd e (Finset.notMem_empty _), ?_⟩
    rintro ⟨-, spans, hs, -⟩
    exact absurd hs (h spans)

theorem shape_spans_iff {width height : Nat} {shape? : Except Fault (Option Canvas.Shape)}
    {spans : List Span} :
    (do
      match ← shape? with
      | none => return none
      | some shape => return some (← shape.spans width height)) = Except.ok (some spans) ↔
      ∃ shape, shape? = .ok (some shape) ∧ shape.spans width height = .ok spans := by
  rw [Except.bind_eq_ok_iff]
  constructor
  · rintro ⟨_ | shape, h, h'⟩
    · simp [pure, Except.pure] at h'
    · obtain ⟨spans', hs, h'⟩ := Except.bind_eq_ok_iff.1 h'
      simp only [pure, Except.pure, Except.ok.injEq, Option.some.injEq] at h'
      exact ⟨shape, h, h' ▸ hs⟩
  · rintro ⟨shape, h, hs⟩
    exact ⟨some shape, h, Except.bind_eq_ok_iff.2 ⟨spans, hs, rfl⟩⟩

theorem spans_line_iff {width height : Nat} {s : Segment α} {penWidth : Except Fault Int}
    {spans : List Span} :
    (line s penWidth).spans width height = .ok (some spans) ↔ ∃ n, penWidth = .ok n ∧
      ∃ shape, Canvas.lineShape width height s n = .ok (some shape) ∧
        shape.spans width height = .ok spans := by
  rw [Geometry.spans, Except.bind_eq_ok_iff]
  exact exists_congr fun n => and_congr_right fun _ => shape_spans_iff

theorem spans_dot_iff {width height : Nat} {x y diameter : α} {spans : List Span} :
    (dot x y diameter).spans width height = .ok (some spans) ↔
      ∃ shape, Canvas.dotShape width height x y diameter = .ok (some shape) ∧
        shape.spans width height = .ok spans :=
  shape_spans_iff

theorem spans_pixel_iff {width height : Nat} {x y : α} {spans : List Span} :
    (pixel x y).spans width height = .ok (some spans) ↔ ∃ i j : Nat,
      Canvas.pixelAt width height x y = .ok (some (i, j)) ∧ spans = [.ofPoint ⟨i, j⟩] := by
  rw [Geometry.spans, Except.bind_eq_ok_iff]
  constructor
  · rintro ⟨_ | ⟨i, j⟩, h, h'⟩
    · simp [pure, Except.pure] at h'
    · simp only [pure, Except.pure, Except.ok.injEq, Option.some.injEq] at h'
      exact ⟨i, j, h, h'.symm⟩
  · rintro ⟨i, j, h, rfl⟩
    exact ⟨some (i, j), h, rfl⟩

/-- **The footprint of one pixel** is the pixel nearest to the point, if it is on the canvas. -/
theorem mem_footprint_pixel_iff {width height i j : Nat} {x y : α} :
    (i, j) ∈ (pixel x y).footprint width height ↔ (i < width ∧ j < height) ∧
      (Scalar.round x : Except Fault Int) = .ok i ∧
      (Scalar.round y : Except Fault Int) = .ok j := by
  rw [mem_footprint_iff, ← Canvas.pixelAt_eq_some_iff]
  simp only [spans_pixel_iff]
  constructor
  · rintro ⟨-, spans, ⟨m, n, h, rfl⟩, hc⟩
    rw [Span.covers_cons, Span.holds_ofPoint, Int.natCast_inj, Int.natCast_inj] at hc
    obtain ⟨rfl, rfl⟩ : n = j ∧ m = i := hc.resolve_right (Span.not_covers_nil _ _)
    exact h
  · intro h
    refine ⟨(Canvas.pixelAt_eq_some_iff.1 h).1, _, ⟨i, j, h, rfl⟩, ?_⟩
    exact (Span.covers_cons _ _ _ _).2 (.inl ((Span.holds_ofPoint _ _ _).2 ⟨rfl, rfl⟩))

end Geometry

namespace Paint

variable {α : Type}

/-- The geometry and the colour of a call, if it is not one that clears the canvas. -/
def parts : Paint α → Option (Geometry α × Ink)
  | pixel x y ink => some (.pixel x y, ink)
  | line s ink penWidth => some (.line s penWidth, ink)
  | dot x y diameter ink => some (.dot x y diameter, ink)
  | clear => none

/-- The colour of a call, if it can be read, has components that can be stored in a byte. -/
def Fits (call : Paint α) : Prop := ∀ g ink, call.parts = some (g, ink) → Ink.Fits ink

instance (call : Paint α) : Decidable call.Fits :=
  match h : call.parts with
  | some (_, ink) => decidable_of_iff ink.Fits (by simp [Fits, h])
  | none => isTrue fun _ _ h' => nomatch h.symm.trans h'

theorem clear_or_inked (call : Paint α) : call = clear ∨ ∃ g ink, call = Geometry.inked ink g := by
  cases call with
  | pixel x y ink => exact .inr ⟨.pixel x y, ink, rfl⟩
  | line s ink penWidth => exact .inr ⟨.line s penWidth, ink, rfl⟩
  | dot x y diameter ink => exact .inr ⟨.dot x y diameter, ink, rfl⟩
  | clear => exact .inl rfl

@[simp] theorem parts_inked (g : Geometry α) (ink : Ink) : (g.inked ink).parts = some (g, ink) := by
  cases g <;> rfl

@[simp] theorem parts_clear : (clear : Paint α).parts = none := rfl

theorem fits_inked {g : Geometry α} {ink : Ink} : (g.inked ink).Fits ↔ Ink.Fits ink := by
  simp [Fits]

end Paint

namespace Canvas

variable {α : Type} [Scalar α]

@[simp] theorem width_mark (c : Canvas) (spans : List Span) (colour : Colour) :
    (c.mark spans colour).width = c.width := Picture.width_paint _ _ _

@[simp] theorem height_mark (c : Canvas) (spans : List Span) (colour : Colour) :
    (c.mark spans colour).height = c.height := Picture.height_paint _ _ _

@[simp] theorem background_mark (c : Canvas) (spans : List Span) (colour : Colour) :
    (c.mark spans colour).background = c.background := rfl

theorem byte_lt_overflowBound : 255 < Binary64.overflowBound := by decide +kernel

theorem canMakeOut_of_fits {colour : Colour} (h : colour.FitsBytes) : canMakeOut colour = true := by
  rw [canMakeOut, List.all_eq_true]
  intro n hn
  obtain ⟨h0, h1⟩ := h n hn
  have := byte_lt_overflowBound
  exact decide_eq_true (by omega)

theorem plan_eq_some_iff {width height : Nat} {shape? : Except Fault (Option Shape)} {ink : Ink}
    (hink : ink.Fits) {spans : List Span} {colour : Colour} :
    plan width height shape? ink = .ok (some (spans, colour)) ↔
      (∃ shape, shape? = .ok (some shape) ∧ shape.spans width height = .ok spans) ∧
        ink = .ok colour := by
  -- Only a disk looks at the colour before it is rasterised, and no byte is too large for it.
  have takes : ∀ {shape : Shape} {c : Colour}, ink = .ok c → shape.takes c = true := by
    intro shape c hc
    cases shape with
    | line => rfl
    | disk => exact canMakeOut_of_fits (hink c hc)
  rw [plan, Except.bind_eq_ok_iff]
  constructor
  · rintro ⟨_ | shape, h, h'⟩
    · simp [pure, Except.pure] at h'
    · obtain ⟨c, hc, h'⟩ := Except.bind_eq_ok_iff.1 h'
      rw [if_pos (takes hc)] at h'
      obtain ⟨s, hs, h'⟩ := Except.bind_eq_ok_iff.1 h'
      simp only [pure, Except.pure, Except.ok.injEq, Option.some.injEq, Prod.mk.injEq] at h'
      obtain ⟨rfl, rfl⟩ := h'
      exact ⟨⟨shape, h, hs⟩, hc⟩
  · rintro ⟨⟨shape, h, hs⟩, hc⟩
    refine ⟨some shape, h, Except.bind_eq_ok_iff.2 ⟨colour, hc, ?_⟩⟩
    rw [if_pos (takes hc)]
    exact Except.bind_eq_ok_iff.2 ⟨spans, hs, rfl⟩

theorem enact_of_some {spans : List Span} {colour : Colour} (h : colour.FitsBytes) (c : Canvas) :
    enact (.ok (some (spans, colour))) c = .ok () (c.mark spans colour) := by
  simp [enact, canMakeOut_of_fits h]

/-- A plan that has nothing to paint, or that fails, changes nothing. -/
theorem after_enact {planned : Except Fault (Option (List Span × Colour))}
    (h : ∀ spans colour, planned ≠ .ok (some (spans, colour))) (c : Canvas) :
    (enact planned).after c = c := by
  cases planned with
  | error e => rfl
  | ok planned =>
    cases planned with
    | none => rfl
    | some p => exact absurd rfl (h p.1 p.2)

theorem after_drawLine (s : Segment α) (ink : Ink) (n : Int) (c : Canvas) :
    (drawLine s ink n).after c =
      (enact (plan c.width c.height (lineShape c.width c.height s n) ink)).after c := by
  simp only [Action.after, drawLine]

theorem after_dot (x y diameter : α) (ink : Ink) (c : Canvas) :
    (dot x y diameter ink).after c =
      (enact (plan c.width c.height (dotShape c.width c.height x y diameter) ink)).after c := by
  simp only [Action.after, dot]

theorem setPixel_eq {x y : α} {i j : Nat} {colour : Colour} {c : Canvas} (hc : colour.FitsBytes)
    (h : pixelAt c.width c.height x y = .ok (some (i, j))) :
    setPixel x y (.ok colour) c = .ok () (c.mark [.ofPoint ⟨i, j⟩] colour) := by
  -- One pixel is stored and runs are brushed, which is the same for a colour that fits bytes.
  have hplan : pixelPlan c.width c.height x y (.ok colour) = .ok (some ((i, j), colour)) := by
    rw [pixelPlan, h]; rfl
  have hi : i < c.picture.width := (pixelAt_eq_some_iff.1 h).1.1
  simp only [setPixel, hplan, store, Colour.storeIn_eq hc, mark, Colour.brushed_eq hc,
    Picture.set_eq_paint _ hi]

/-- **A call that paints returns**, and leaves its runs painted. -/
theorem perform_of_painted {g : Geometry α} {ink : Ink} (hink : ink.Fits) {c : Canvas}
    {spans : List Span} {colour : Colour}
    (h : g.painted c.width c.height ink = some (spans, colour)) :
    perform (g.inked ink) c = .ok () (c.mark spans colour) := by
  obtain ⟨hs, rfl⟩ := Geometry.painted_eq_some_iff.1 h
  have hc : colour.FitsBytes := hink colour rfl
  cases g with
  | pixel x y =>
    obtain ⟨i, j, hp, rfl⟩ := Geometry.spans_pixel_iff.1 hs
    exact setPixel_eq hc hp
  | line s penWidth =>
    obtain ⟨n, rfl, hshape⟩ := Geometry.spans_line_iff.1 hs
    show enact (plan _ _ _ _) c = _
    rw [(plan_eq_some_iff hink).2 ⟨hshape, rfl⟩, enact_of_some hc]
  | dot x y diameter =>
    show enact (plan _ _ _ _) c = _
    rw [(plan_eq_some_iff hink).2 ⟨Geometry.spans_dot_iff.1 hs, rfl⟩, enact_of_some hc]

/-- A line that has a shape is painted, if the shape can be. -/
theorem drawLine_of_spans {c : Canvas} {s : Segment α} {penWidth : Int} {shape : Shape}
    {spans : List Span} {colour : Colour} (hcolour : colour.FitsBytes)
    (hshape : lineShape c.width c.height s penWidth = .ok (some shape))
    (hspans : shape.spans c.width c.height = .ok spans) :
    drawLine s (.ok colour) penWidth c = .ok () (c.mark spans colour) := by
  have hink : Ink.Fits (.ok colour) := fun _ h => Except.ok.inj h ▸ hcolour
  exact perform_of_painted (g := .line s (.ok penWidth)) hink (Geometry.painted_eq_some_iff.2
    ⟨Geometry.spans_line_iff.2 ⟨_, rfl, _, hshape, hspans⟩, rfl⟩)

/-- A dot that has a shape is painted. -/
theorem dot_of_spans {c : Canvas} {x y diameter : α} {shape : Shape} {spans : List Span}
    {colour : Colour} (hcolour : colour.FitsBytes)
    (hshape : dotShape c.width c.height x y diameter = .ok (some shape))
    (hspans : shape.spans c.width c.height = .ok spans) :
    dot x y diameter (.ok colour) c = .ok () (c.mark spans colour) := by
  have hink : Ink.Fits (.ok colour) := fun _ h => Except.ok.inj h ▸ hcolour
  exact perform_of_painted (g := .dot x y diameter) hink (Geometry.painted_eq_some_iff.2
    ⟨Geometry.spans_dot_iff.2 ⟨_, hshape, hspans⟩, rfl⟩)

theorem dot_of_dotShape_none {c : Canvas} {x y diameter : α}
    (h : dotShape c.width c.height x y diameter = .ok none) (ink : Ink) :
    dot x y diameter ink c = .ok () c := by
  rw [dot, h]
  rfl

theorem dot_of_dotShape_error {c : Canvas} {x y diameter : α} {e : Fault}
    (h : dotShape c.width c.height x y diameter = .error e) (ink : Ink) :
    dot x y diameter ink c = .error e c := by
  rw [dot, h]
  rfl

/-- **A call that does not paint changes nothing**, whether it returns or fails. -/
theorem after_of_not_painted {g : Geometry α} {ink : Ink} (hink : ink.Fits) {c : Canvas}
    (h : g.painted c.width c.height ink = none) : (perform (g.inked ink)).after c = c := by
  -- Whatever stops a call stops its plan, and the canvas is touched only after the plan is made.
  have hno : ∀ spans colour, g.spans c.width c.height = .ok (some spans) → ink ≠ .ok colour := by
    intro spans colour hs hc
    exact absurd (h.symm.trans (Geometry.painted_eq_some_iff.2 ⟨hs, hc⟩)) (by simp)
  cases g with
  | pixel x y =>
    show (setPixel x y ink).after c = c
    cases hp : pixelPlan c.width c.height x y ink with
    | error e => exact Action.after_of_error (e := e) (by simp only [setPixel, hp])
    | ok planned =>
      cases planned with
      | none => exact Action.after_of_ok (b := ()) (by simp only [setPixel, hp])
      | some q =>
        obtain ⟨place, ha, hq⟩ := Except.bind_eq_ok_iff.1 hp
        cases place with
        | none => simp [pure, Except.pure] at hq
        | some place =>
          obtain ⟨colour, hink', -⟩ := Except.bind_eq_ok_iff.1 hq
          exact absurd hink' (hno _ colour (Geometry.spans_pixel_iff.2 ⟨place.1, place.2, ha, rfl⟩))
  | line s penWidth =>
    cases penWidth with
    | error e => rfl
    | ok n =>
      refine (after_drawLine s ink n c).trans (after_enact (fun spans colour hp => ?_) c)
      obtain ⟨hshape, hink'⟩ := (plan_eq_some_iff hink).1 hp
      exact hno spans colour (Geometry.spans_line_iff.2 ⟨n, rfl, hshape⟩) hink'
  | dot x y diameter =>
    refine (after_dot x y diameter ink c).trans (after_enact (fun spans colour hp => ?_) c)
    obtain ⟨hshape, hink'⟩ := (plan_eq_some_iff hink).1 hp
    exact hno spans colour (Geometry.spans_dot_iff.2 hshape) hink'

/-- What a painting call leaves. -/
theorem after_perform_inked {g : Geometry α} {ink : Ink} (hink : ink.Fits) (c : Canvas) :
    (perform (g.inked ink)).after c =
      match g.painted c.width c.height ink with
      | some (spans, colour) => c.mark spans colour
      | none => c := by
  cases h : g.painted c.width c.height ink with
  | none => exact after_of_not_painted hink h
  | some p => exact Action.after_of_ok (perform_of_painted hink h)

/-- Clearing fills the canvas with its background, if that can be stored in bytes. -/
theorem perform_clear {c : Canvas} (h : c.background.firstBeyondByte? = none) :
    perform (.clear : Paint α) c = .ok () { c with
      picture := .filled c.width c.height c.background.clamped
      generation := c.generation + 1 } := by
  show clear c = _
  simp only [clear, h]

theorem picture_after_clear {c : Canvas} (h : c.background.FitsBytes) :
    ((perform (.clear : Paint α)).after c).picture =
      .filled c.width c.height c.background.clamped := by
  rw [Action.after_of_ok (perform_clear (Colour.firstBeyondByte?_eq_none h))]

theorem perform_clear_of_some {c : Canvas} {n : Int} (h : c.background.firstBeyondByte? = some n) :
    perform (.clear : Paint α) c = .error (.ofComponent n) c := by
  show clear c = _
  simp only [clear, h]

/-- No call changes the size or the background of the canvas. -/
theorem frame_perform {call : Paint α} (hcall : call.Fits) (c : Canvas) :
    ((perform call).after c).width = c.width ∧ ((perform call).after c).height = c.height ∧
      ((perform call).after c).background = c.background := by
  rcases call.clear_or_inked with rfl | ⟨g, ink, rfl⟩
  · cases h : c.background.firstBeyondByte? with
    | none => rw [Action.after_of_ok (perform_clear h)]; exact ⟨rfl, rfl, rfl⟩
    | some n => rw [Action.after_of_error (perform_clear_of_some h)]; exact ⟨rfl, rfl, rfl⟩
  · rw [after_perform_inked (Paint.fits_inked.1 hcall)]
    split
    · simp
    · exact ⟨rfl, rfl, rfl⟩

/-! ### Sizes -/

theorem size_enact (planned : Except Fault (Option (List Span × Colour))) (c : Canvas) :
    ((enact planned).after c).width = c.width ∧ ((enact planned).after c).height = c.height := by
  rcases planned with e | _ | ⟨spans, colour⟩
  · exact ⟨rfl, rfl⟩
  · exact ⟨rfl, rfl⟩
  · simp only [Action.after, enact]
    split_ifs
    · exact ⟨width_mark _ _ _, height_mark _ _ _⟩
    · exact ⟨width_mark _ _ _, height_mark _ _ _⟩

theorem size_setPixel (x y : α) (ink : Ink) (c : Canvas) :
    ((setPixel x y ink).after c).width = c.width ∧
      ((setPixel x y ink).after c).height = c.height := by
  rcases h : pixelPlan c.width c.height x y ink with e | _ | ⟨⟨i, j⟩, colour⟩
  · simp [Action.after, setPixel, h]
  · simp [Action.after, setPixel, h]
  · rcases hs : colour.storeIn (c.picture.pixel i j) with ⟨pixel, _ | n⟩
    · simp only [Action.after, setPixel, h, store, hs]
      exact ⟨Picture.width_set _ _ _ _, Picture.height_set _ _ _ _⟩
    · simp only [Action.after, setPixel, h, store, hs]
      exact ⟨Picture.width_set _ _ _ _, Picture.height_set _ _ _ _⟩

theorem size_clear (c : Canvas) :
    (clear.after c).width = c.width ∧ (clear.after c).height = c.height := by
  cases h : c.background.firstBeyondByte? with
  | some n => simp [Action.after, clear, h]
  | none =>
    simp only [Action.after, clear, h]
    exact ⟨rfl, rfl⟩

/-- **No call changes the size of the canvas**, in whatever colour. -/
theorem size_perform (call : Paint α) (c : Canvas) :
    ((perform call).after c).width = c.width ∧ ((perform call).after c).height = c.height := by
  cases call with
  | pixel x y ink => exact size_setPixel x y ink c
  | line s ink penWidth =>
    cases penWidth with
    | error e => exact ⟨rfl, rfl⟩
    | ok n =>
      show ((drawLine s ink n).after c).width = _ ∧ ((drawLine s ink n).after c).height = _
      rw [after_drawLine]
      exact size_enact _ c
  | dot x y diameter ink =>
    show ((dot x y diameter ink).after c).width = _ ∧ ((dot x y diameter ink).after c).height = _
    rw [after_dot]
    exact size_enact _ c
  | clear => exact size_clear c

theorem size_performAll (c : Canvas) (calls : List (Paint α)) :
    (c.performAll calls).width = c.width ∧ (c.performAll calls).height = c.height := by
  induction calls generalizing c with
  | nil => exact ⟨rfl, rfl⟩
  | cons call rest ih =>
    obtain ⟨hw, hh⟩ := size_perform call c
    obtain ⟨hw', hh'⟩ := ih ((perform call).after c)
    exact ⟨hw'.trans hw, hh'.trans hh⟩

end Canvas

end TurtleCanvas
