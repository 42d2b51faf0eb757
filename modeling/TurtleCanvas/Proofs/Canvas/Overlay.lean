import Mathlib.Data.List.Induction
import TurtleCanvas.Platform
import TurtleCanvas.Proofs.Canvas.Basic
import TurtleCanvas.Proofs.Canvas.Footprint
import TurtleCanvas.Proofs.Rounding

/-!
# The overlay law

After any run of painting calls each pixel shows the last call that painted it.

* `Canvas.history` is a run of painting calls, each with whether it returned;
* `Canvas.overlaid` is the colour that the law gives a pixel: that of the last call after the last
  clear that returned and whose footprint holds the pixel;
* `Canvas.pixel_performAll` says that this is the colour that the pixel has, and
  `Canvas.overlay_law` says it of what is seen of the canvas.
-/

namespace TurtleCanvas

/-- The colour that a call gives the pixel in column `x` of row `y`, if it returned and painted it. -/
def Paint.colourAt {α : Type} [Scalar α] (width height x y : Nat) :
    Paint α × Bool → Option Colour
  | (call, returned) =>
    match call.parts with
    | some (g, ink) =>
      if returned ∧ (x, y) ∈ g.footprint width height then ink.toOption else none
    | none => none

namespace Canvas

variable {α : Type} [Scalar α]

/-- The calls of a run, each with whether it returned. -/
def history (c : Canvas) : List (Paint α) → List (Paint α × Bool)
  | [] => []
  | call :: rest =>
    (call, ((perform call).fault? c).isNone) :: history ((perform call).after c) rest

/-- The colour of the last call after the last clear that returned and painted the pixel in column
`x` of row `y`, or the background when there is none. -/
def overlaid (width height : Nat) (background : Colour) (past : List (Paint α × Bool))
    (x y : Nat) : Colour :=
  ((past.reverse.takeWhile fun p => p.1.parts.isSome).findSome?
    (Paint.colourAt width height x y)).getD background

/-! ### Runs -/

theorem performAll_append_singleton (c : Canvas) (calls : List (Paint α)) (call : Paint α) :
    c.performAll (calls ++ [call]) = (perform call).after (c.performAll calls) := by
  simp [performAll, List.foldl_append]

theorem history_append_singleton (c : Canvas) (calls : List (Paint α)) (call : Paint α) :
    c.history (calls ++ [call]) =
      c.history calls ++ [(call, ((perform call).fault? (c.performAll calls)).isNone)] := by
  induction calls generalizing c with
  | nil => rfl
  | cons first rest ih =>
    rw [List.cons_append, history, ih]
    rfl

theorem map_fst_history (c : Canvas) (calls : List (Paint α)) :
    (c.history calls).map Prod.fst = calls := by
  induction calls generalizing c with
  | nil => rfl
  | cons call rest ih => rw [history, List.map_cons, ih]

/-- No run changes the size or the background of the canvas. -/
theorem frame_performAll (c : Canvas) {calls : List (Paint α)} (h : ∀ call ∈ calls, call.Fits) :
    (c.performAll calls).width = c.width ∧ (c.performAll calls).height = c.height ∧
      (c.performAll calls).background = c.background := by
  induction calls generalizing c with
  | nil => exact ⟨rfl, rfl, rfl⟩
  | cons call rest ih =>
    obtain ⟨hw, hh, hb⟩ := frame_perform (h call List.mem_cons_self) c
    obtain ⟨hw', hh', hb'⟩ := ih ((perform call).after c) fun x hx => h x (List.mem_cons_of_mem _ hx)
    exact ⟨hw'.trans hw, hh'.trans hh, hb'.trans hb⟩

/-! ### The law, call by call -/

theorem overlaid_clear (width height : Nat) (background : Colour) (past : List (Paint α × Bool))
    (returned : Bool) (x y : Nat) :
    overlaid width height background (past ++ [(.clear, returned)]) x y = background := by
  simp [overlaid]

theorem overlaid_inked (width height : Nat) (background : Colour) (past : List (Paint α × Bool))
    (g : Geometry α) (ink : Ink) (returned : Bool) (x y : Nat) :
    overlaid width height background (past ++ [(g.inked ink, returned)]) x y =
      if returned ∧ (x, y) ∈ g.footprint width height then
        ink.toOption.getD (overlaid width height background past x y)
      else overlaid width height background past x y := by
  simp only [overlaid, List.reverse_append, List.reverse_singleton, List.singleton_append,
    List.takeWhile_cons, Paint.parts_inked, Option.isSome_some, if_true, List.findSome?_cons,
    Paint.colourAt]
  split_ifs with h
  · cases ink <;> rfl
  · rfl

/-- The colour that the law gives is one of those that were asked for. -/
theorem fits_overlaid {width height : Nat} {background : Colour} {past : List (Paint α × Bool)}
    (hb : background.FitsBytes) (hpast : ∀ p ∈ past, p.1.Fits) (x y : Nat) :
    (overlaid width height background past x y).FitsBytes := by
  induction past using List.reverseRecOn with
  | nil => exact hb
  | append_singleton past p ih =>
    have hp := hpast p (by simp)
    have hrest := ih fun q hq => hpast q (by simp [hq])
    obtain ⟨call, returned⟩ := p
    rcases call.clear_or_inked with rfl | ⟨g, ink, rfl⟩
    · rw [overlaid_clear]; exact hb
    · rw [overlaid_inked]
      split_ifs
      · cases ink with
        | error e => exact hrest
        | ok colour => exact Paint.fits_inked.1 hp colour rfl
      · exact hrest

theorem mem_footprint_of_painted {width height x y : Nat} {g : Geometry α} {ink : Ink}
    {spans : List Span} {colour : Colour}
    (h : g.painted width height ink = some (spans, colour)) (hx : x < width) (hy : y < height) :
    (x, y) ∈ g.footprint width height ↔ Span.Covers spans x y := by
  rw [Geometry.mem_footprint_iff, (Geometry.painted_eq_some_iff.1 h).1]
  simp [hx, hy]

/-- A call that covers a pixel without painting it could not read its colour. -/
theorem toOption_of_not_painted {width height x y : Nat} {g : Geometry α} {ink : Ink}
    (h : g.painted width height ink = none) (hmem : (x, y) ∈ g.footprint width height) :
    ink.toOption = none := by
  obtain ⟨-, spans, hs, -⟩ := Geometry.mem_footprint_iff.1 hmem
  cases ink with
  | error e => rfl
  | ok colour => exact absurd (h.symm.trans (Geometry.painted_eq_some_iff.2 ⟨hs, rfl⟩)) (by simp)

/-- **Every pixel shows the last call that painted it.** -/
theorem pixel_performAll {c : Canvas} (hb : c.background.FitsBytes)
    (hfresh : ∀ x y, x < c.width → y < c.height → c.picture.pixel x y = c.background.clamped)
    {calls : List (Paint α)} (hcalls : ∀ call ∈ calls, call.Fits) {x y : Nat} (hx : x < c.width)
    (hy : y < c.height) :
    (c.performAll calls).picture.pixel x y =
      (overlaid c.width c.height c.background (c.history calls) x y).clamped := by
  -- From the end of the run: the last call decides, or else what the calls before it left stays.
  induction calls using List.reverseRecOn with
  | nil => exact hfresh x y hx hy
  | append_singleton calls call ih =>
    have hrest : ∀ q ∈ calls, q.Fits := fun q hq => hcalls q (List.mem_append_left _ hq)
    have hcall : call.Fits := hcalls call (by simp)
    have hpix := ih hrest
    obtain ⟨hw, hh, hbg⟩ := frame_performAll c hrest
    rw [performAll_append_singleton, history_append_singleton]
    generalize c.performAll calls = d at hpix hw hh hbg ⊢
    rcases call.clear_or_inked with rfl | ⟨g, ink, rfl⟩
    · rw [overlaid_clear, picture_after_clear (hbg.symm ▸ hb), hw, hh, hbg]
      exact Picture.pixel_filled _ hx hy
    · have hink : ink.Fits := Paint.fits_inked.1 hcall
      rw [overlaid_inked]
      cases hp : g.painted c.width c.height ink with
      | none =>
        rw [after_of_not_painted hink (hw.symm ▸ hh.symm ▸ hp), hpix]
        split_ifs with h
        · rw [toOption_of_not_painted hp h.2]; rfl
        · rfl
      | some painted =>
        obtain ⟨spans, colour⟩ := painted
        obtain ⟨-, rfl⟩ := Geometry.painted_eq_some_iff.1 hp
        -- What the call covers shows its colour, and every other pixel is as it was.
        have hperform := perform_of_painted hink (c := d) (hw.symm ▸ hh.symm ▸ hp)
        have hmem := mem_footprint_of_painted hp hx hy
        rw [Action.after_of_ok hperform, Action.fault?_of_ok hperform, mark,
          Picture.pixel_paint _ _ (hx.trans_eq hw.symm) (hy.trans_eq hh.symm),
          Colour.brushed_eq (hink colour rfl), hpix]
        by_cases hcov : Span.Covers spans x y <;> simp [hmem, hcov, Except.toOption]

/-! ### Repeated and exchanged calls -/

/-- Repeating a call changes no pixel. -/
theorem picture_perform_perform {c : Canvas} {call : Paint α} (hcall : call.Fits)
    (hb : c.background.FitsBytes) :
    ((perform call).after ((perform call).after c)).picture =
      ((perform call).after c).picture := by
  rcases call.clear_or_inked with rfl | ⟨g, ink, rfl⟩
  · obtain ⟨hw, hh, hbg⟩ := frame_perform hcall c
    rw [picture_after_clear (hbg.symm ▸ hb), picture_after_clear hb, hw, hh, hbg]
  · have hink : ink.Fits := Paint.fits_inked.1 hcall
    cases hp : g.painted c.width c.height ink with
    | none => rw [after_of_not_painted hink hp, after_of_not_painted hink hp]
    | some painted =>
      obtain ⟨spans, colour⟩ := painted
      rw [Action.after_of_ok (perform_of_painted hink hp),
        Action.after_of_ok (perform_of_painted hink (by simpa using hp))]
      exact Picture.paint_paint_self _ _ _

/-- Two calls of one colour give the same picture in either order. -/
theorem picture_perform_comm {c : Canvas} {g g' : Geometry α} {ink : Ink} (hink : ink.Fits) :
    ((perform (g'.inked ink)).after ((perform (g.inked ink)).after c)).picture =
      ((perform (g.inked ink)).after ((perform (g'.inked ink)).after c)).picture := by
  rw [after_perform_inked hink, after_perform_inked hink, after_perform_inked hink,
    after_perform_inked hink]
  -- A call leaves the size of the canvas as it is, so the other call paints what it would have.
  cases hp : g.painted c.width c.height ink with
  | none => cases hp' : g'.painted c.width c.height ink <;> simp [hp]
  | some painted =>
    obtain ⟨spans, colour⟩ := painted
    cases hp' : g'.painted c.width c.height ink with
    | none => simp [hp, hp']
    | some painted' =>
      obtain ⟨spans', colour'⟩ := painted'
      have hcolour : colour = colour' := by
        obtain ⟨-, h⟩ := Geometry.painted_eq_some_iff.1 hp
        obtain ⟨-, h'⟩ := Geometry.painted_eq_some_iff.1 hp'
        exact Except.ok.inj (h.symm.trans h')
      subst hcolour
      simp only [width_mark, height_mark, hp, hp']
      exact Picture.paint_comm _ _ _ _

/-! ### The law -/

/-- **The overlay law.**  After any run of painting calls on a fresh canvas, what is seen of a pixel
is the colour of the last call after the last clear that returned and whose footprint holds the
pixel, or the background when there is none.  A footprint depends on the size of the canvas and on
the geometry of the call alone; that of one pixel is the pixel nearest to the point, where a half
goes to the even neighbour.  Repeating a call changes nothing, and two calls of one colour can be
exchanged. -/
theorem overlay_law [Memory] {width height : Argument} {background : Colour} {c : Canvas}
    (hc : create width height (.ok background) = .ok c) (hb : background.FitsBytes)
    {calls : List (Paint α)} (hcalls : ∀ call ∈ calls, call.Fits) :
    (∀ i j : Nat, i < c.width → j < c.height →
      ∃ bytes, (c.performAll calls).getPixel (.int i) (.int j) = .ok bytes ∧
        bytes.map (fun b => (b.toNat : Int)) =
          (overlaid c.width c.height background (c.history calls) i j).components) ∧
    (∀ (x y : α) (i j : Nat), (i, j) ∈ (Geometry.pixel x y).footprint c.width c.height ↔
      (i < c.width ∧ j < c.height) ∧ (Scalar.round x : Except Fault Int) = .ok i ∧
        (Scalar.round y : Except Fault Int) = .ok j) ∧
    (∀ (x y : Float) (i j : Nat),
      (i, j) ∈ (Geometry.pixel (Argument.real x) (.real y)).footprint c.width c.height ↔
        (i < c.width ∧ j < c.height) ∧
          (Binary64.isFinite x = true ∧ (i : Int) = roundHalfEven (Binary64.value x)) ∧
          (Binary64.isFinite y = true ∧ (j : Int) = roundHalfEven (Binary64.value y))) ∧
    (∀ call : Paint α, call.Fits →
      ((perform call).after ((perform call).after (c.performAll calls))).picture =
        ((perform call).after (c.performAll calls)).picture) ∧
    (∀ (g g' : Geometry α) (ink : Ink), ink.Fits →
      ((perform (g'.inked ink)).after
          ((perform (g.inked ink)).after (c.performAll calls))).picture =
        ((perform (g.inked ink)).after
          ((perform (g'.inked ink)).after (c.performAll calls))).picture) := by
  obtain ⟨w, h, colour, pixel, hcolour, hpixel, rfl, hw, hh⟩ := create_spec hc
  obtain rfl : background = colour := Except.ok.inj hcolour
  obtain rfl : background.clamped = pixel :=
    Except.ok.inj ((backgroundPixel_of_fits hb).symm.trans hpixel)
  obtain ⟨hw', hh', hb'⟩ := frame_performAll ⟨.filled w h background.clamped, background, 0⟩ hcalls
  refine ⟨fun i j hi hj => ?_, fun x y i j => Geometry.mem_footprint_pixel_iff, fun x y i j => ?_,
    fun call hcall => picture_perform_perform hcall (hb'.symm ▸ hb),
    fun g g' ink hink => picture_perform_comm hink⟩
  · refine ⟨_, getPixel_of_lt (hw'.symm ▸ hw) (hh'.symm ▸ hh) (hw'.symm ▸ hi) (hh'.symm ▸ hj), ?_⟩
    have hpast : ∀ p ∈ history ⟨.filled w h background.clamped, background, 0⟩ calls,
        p.1.Fits := fun p hp => hcalls p.1 (map_fst_history _ calls ▸ List.mem_map_of_mem hp)
    rw [pixel_performAll hb (fun _ _ hx hy => Picture.pixel_filled _ hx hy) hcalls hi hj,
      Colour.bytes_clamped (fits_overlaid hb hpast i j)]
  · rw [Geometry.mem_footprint_pixel_iff, round_real_iff, round_real_iff]

/-- A run that paints, clears, paints one pixel twice and fails twice. -/
def recolouring : List (Paint Argument) :=
  [.pixel (.int 0) (.int 0) (.ok ⟨255, 0, 0⟩), .clear, .pixel (.int 1) (.int 0) (.ok ⟨0, 0, 255⟩),
    .pixel (.int 1) (.int 0) (.ok ⟨0, 128, 0⟩), .pixel (.int 1) .none (.ok ⟨9, 9, 9⟩),
    .pixel (.int 1) (.int 0) (.error .colourTooLong)]

/-- Of two colours painted after a clear the last is seen, and calls that fail are not. -/
theorem overlay_law_recolouring :
    create (.int 2) (.int 1) (.ok ⟨255, 255, 255⟩) =
        .ok ⟨.filled 2 1 ⟨255, 255, 255⟩, ⟨255, 255, 255⟩, 0⟩ ∧
      (∀ call ∈ recolouring, call.Fits) ∧
      ∃ bytes, (performAll ⟨.filled 2 1 ⟨255, 255, 255⟩, ⟨255, 255, 255⟩, 0⟩
          recolouring).getPixel (.int 1) (.int 0) = .ok bytes ∧
        bytes.map (fun b => (b.toNat : Int)) = [0, 128, 0] := by
  have hcalls : ∀ call ∈ recolouring, call.Fits := by decide
  have hc : create (.int 2) (.int 1) (.ok ⟨255, 255, 255⟩) =
      .ok ⟨.filled 2 1 ⟨255, 255, 255⟩, ⟨255, 255, 255⟩, 0⟩ := rfl
  obtain ⟨bytes, hget, hbytes⟩ :=
    (overlay_law hc (by decide) hcalls).1 1 0 (by decide) (by decide)
  exact ⟨hc, hcalls, bytes, hget, hbytes.trans (by decide)⟩

end Canvas

end TurtleCanvas
