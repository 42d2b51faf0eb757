import TurtleCanvas.Platform
import TurtleCanvas.Proofs.Canvas.SinglePixel

/-!
# One colour, one set of bytes

A pixel can be given a colour in several ways, each of which takes the colour to bytes in its own
manner.  They agree on the colours whose components fit bytes, and on no others.  Places are given by
numbers of any kind, and the way to a pixel goes through double arithmetic, which is exact for the
places of a canvas.

* `Canvas.Shows` says what is seen of a pixel;
* `Canvas.exists_spans_line` and `Canvas.exists_spans_dot` say that a line from a pixel to itself, and
  a dot on it, reaches the pixel;
* `Way` is a way to give a pixel its colour, and `Way.paint_shows` says that the colour is then seen;
* `Way.not_paint_shows_tooRed` is a colour that one way refuses and another changes.
-/

namespace TurtleCanvas

namespace Canvas

/-! ### Seeing a colour -/

/-- Looking at the pixel in column `i` of row `j` gives the components of a colour. -/
def Shows (c : Canvas) (i j : ℕ) (colour : Colour) : Prop :=
  ∃ bytes, c.getPixel (.int i) (.int j) = .ok bytes ∧
    bytes.map (fun b => (b.toNat : ℤ)) = colour.components

theorem shows_of_pixel {c : Canvas} (hw : c.width ≤ 2 ^ 47) (hh : c.height ≤ 2 ^ 47) {i j : ℕ}
    (hi : i < c.width) (hj : j < c.height) {colour : Colour} (hcolour : colour.FitsBytes)
    (h : c.picture.pixel i j = colour.clamped) : c.Shows i j colour :=
  ⟨_, getPixel_of_lt (by omega) (by omega) hi hj, by rw [h, Colour.bytes_clamped hcolour]⟩

/-- A pixel that painted runs cover shows their colour. -/
theorem shows_mark {c : Canvas} (hw : c.width ≤ 2 ^ 47) (hh : c.height ≤ 2 ^ 47) {i j : ℕ}
    (hi : i < c.width) (hj : j < c.height) {colour : Colour} (hcolour : colour.FitsBytes)
    {spans : List Span} (hcovers : Span.Covers spans i j) : (c.mark spans colour).Shows i j colour := by
  refine shows_of_pixel ?_ ?_ ?_ ?_ hcolour ?_
  · rwa [width_mark]
  · rwa [height_mark]
  · rwa [width_mark]
  · rwa [height_mark]
  · rw [mark, Picture.pixel_paint _ _ hi hj, if_pos hcovers, Colour.brushed_eq hcolour]

/-- A call whose runs cover a pixel gives it its colour. -/
theorem exists_shows_of_spans {c : Canvas} (hw : c.width ≤ 2 ^ 47) (hh : c.height ≤ 2 ^ 47)
    {i j : ℕ} (hi : i < c.width) (hj : j < c.height) {colour : Colour} (hcolour : colour.FitsBytes)
    {g : Geometry Argument} {spans : List Span}
    (hspans : g.spans c.width c.height = .ok (some spans)) (hcovers : Span.Covers spans i j) :
    ∃ c', perform (g.inked (.ok colour)) c = .ok () c' ∧ c'.Shows i j colour := by
  have hink : Ink.Fits (.ok colour) := fun _ h => Except.ok.inj h ▸ hcolour
  exact ⟨c.mark spans colour, perform_of_painted hink (Geometry.painted_eq_some_iff.2 ⟨hspans, rfl⟩),
    shows_mark hw hh hi hj hcolour hcovers⟩

/-! ### The pixel as a point -/

variable {x y : Argument} {i j : ℕ}

/-- A line from a pixel to itself covers the pixel. -/
theorem exists_spans_line {width height : ℕ} (hcounted : IsCounted width height)
    (hi : i < width) (hj : j < height) (hx : x.HasValue i) (hy : y.HasValue j) :
    ∃ spans, (Geometry.line ⟨x, y, x, y⟩ (.ok 1)).spans width height = .ok (some spans) ∧
      Span.Covers spans i j := by
  have hnearest : Point.nearest ((i, j) : ℚ × ℚ) = .ofPixel (i, j) :=
    congrArg₂ Point.mk (roundHalfEven_intCast (i : ℤ)) (roundHalfEven_intCast (j : ℤ))
  obtain ⟨spans?, hspans, hcovers⟩ := Geometry.paintsOnly_line hcounted (by omega) hx.denotes
    hy.denotes ⟨hx.fitsReal, hy.fitsReal⟩ le_rfl
  obtain ⟨spans, rfl, hpixel⟩ := (hcovers i j hi hj).2 hnearest
  exact ⟨spans, hspans, hpixel⟩

/-- A disk covers its centre. -/
theorem covers_disk (c : Point) (radius : ℕ) : Span.Covers (Raster.disk c radius) c.x c.y := by
  rw [Raster.disk, Raster.diskRows, if_pos (by omega), Span.covers_append]
  refine .inl ((Span.covers_cons _ _ _ _).2 (.inl ?_))
  simp only [Span.Holds]
  omega

/-- A dot of any finite diameter covers its centre, on a canvas that is small enough for the painter
to be given the greatest radius. -/
theorem exists_spans_dot {width height : ℕ} (hsize : width + height < 2 ^ 30) (hi : i < width)
    (hj : j < height) (hx : x.HasValue i) (hy : y.HasValue j) {diameter : Argument}
    (hd : Scalar.isFinite diameter = .ok true) :
    ∃ spans, (Geometry.dot x y diameter).spans width height = .ok (some spans) ∧
      Span.Covers spans i j := by
  obtain ⟨half, hhalf, hfinite⟩ := Argument.exists_half_of_isFinite hd
  obtain ⟨r, hr, hcap⟩ :
      ∃ r, dotRadius width height diameter = .ok r ∧ r ≤ sizeLimit width height :=
    ⟨_, Except.bind_eq_ok_iff.2 ⟨_, hhalf,
      Except.bind_eq_ok_iff.2 ⟨_, round_real_iff.2 ⟨hfinite, rfl⟩, rfl⟩⟩, min_le_right _ _⟩
  have htakes : TakesDisk width height ⟨i, j⟩ r := by
    simp only [sizeLimit] at hcap
    simp only [TakesDisk, Point.FitsWord]
    omega
  have hnear : ∀ {a : Argument} {k size : ℕ}, a.HasValue k → k < size →
      nearRange r size a = .ok true := by
    intro a k size ha hk
    have h0 : (0 : ℚ) ≤ k := k.cast_nonneg
    have hr0 : (0 : ℚ) ≤ r := r.cast_nonneg
    have hsize : (k : ℚ) ≤ size := by exact_mod_cast hk.le
    rw [nearRange, ha.int_le (by push_cast; linarith), Except.ok_bind, if_pos rfl]
    exact ha.le_int (by push_cast; linarith)
  refine ⟨Raster.disk ⟨i, j⟩ r, Geometry.spans_dot_iff.2 ⟨.disk ⟨i, j⟩ r, ?_, spans_disk htakes⟩,
    covers_disk ⟨i, j⟩ r⟩
  have hfinite : Scalar.allFinite [x, y, diameter] = .ok true := by
    simp only [Scalar.allFinite, hx.isFinite, hy.isFinite, hd, Except.ok_bind, if_true]
    rfl
  rw [dotShape, hfinite, Except.ok_bind, if_pos rfl, hr, Except.ok_bind, hnear hx hi,
    Except.ok_bind, if_pos rfl, hnear hy hj, Except.ok_bind, if_pos rfl]
  have hxi := Argument.HasValue.round_eq (k := (i : ℤ)) hx
  have hyj := Argument.HasValue.round_eq (k := (j : ℤ)) hy
  rw [hxi, hyj]
  rfl

end Canvas

/-! ### The ways to give a pixel its colour -/

/-- A way to give a pixel its colour: to store it, to draw a line one pixel wide or a dot on it, or to
make a canvas of that colour. -/
inductive Way where
  | pixel
  | line
  | dot (diameter : Argument)
  | background

namespace Way

section Paint

variable [Memory]

/-- Give the pixel at a point its colour. -/
def paint (x y : Argument) (ink : Ink) : Way → Action Canvas Unit
  | pixel => Canvas.perform (.pixel x y ink)
  | line => Canvas.perform (.line ⟨x, y, x, y⟩ ink (.ok 1))
  | dot diameter => Canvas.perform (.dot x y diameter ink)
  | background => fun c =>
    match Canvas.create (.int c.width) (.int c.height) ink with
    | .ok fresh => .ok () fresh
    | .error e => .error e c

/-- The painter can be given what is drawn on a canvas of a size.  Storing a pixel and making a
canvas do without the painter. -/
def IsTaken (width height : ℕ) : Way → Prop
  | line => Canvas.IsCounted width height
  | dot diameter => Scalar.isFinite diameter = .ok true ∧ width + height < 2 ^ 30
  | _ => True

/-- **One colour, one set of bytes.**  On every canvas that can be made, a colour that is accepted
and has components that fit bytes is stored in a pixel of the canvas as it is, in whichever way it
gets there, and is what looking at the pixel gives.  What goes through the painter must be something
that it can be given. -/
theorem paint_shows {a : Argument} {colour : Colour} (ha : a.toColour = .ok colour)
    (hcolour : colour.FitsBytes) {c : Canvas} (hc : c.IsReachedHere) {x y : Argument} {i j : ℕ}
    (hx : x.HasValue i) (hy : y.HasValue j) (hi : i < c.width) (hj : j < c.height) {way : Way}
    (hway : way.IsTaken c.width c.height) :
    ∃ c', way.paint x y a.toColour c = .ok () c' ∧ c'.Shows i j colour := by
  obtain ⟨⟨hw0, hh0⟩, hroom⟩ := hc.room
  have hreached : c.IsReached := ⟨_, hc⟩
  obtain ⟨hw, hh⟩ := hreached.size_le
  rw [ha]
  cases way with
  | pixel =>
    have hspans : (Geometry.pixel x y).spans c.width c.height = .ok (some [.ofPoint ⟨i, j⟩]) :=
      Geometry.spans_pixel_iff.2 ⟨i, j, Canvas.pixelAt_eq_some_iff.2
        ⟨⟨hi, hj⟩, Argument.HasValue.round_eq (k := (i : ℤ)) hx,
          Argument.HasValue.round_eq (k := (j : ℤ)) hy⟩, rfl⟩
    exact Canvas.exists_shows_of_spans hw hh hi hj hcolour hspans
      ((Span.covers_cons _ _ _ _).2 (.inl ((Span.holds_ofPoint _ _ _).2 ⟨rfl, rfl⟩)))
  | line =>
    obtain ⟨spans, hspans, hcovers⟩ := Canvas.exists_spans_line hway hi hj hx hy
    exact Canvas.exists_shows_of_spans hw hh hi hj hcolour hspans hcovers
  | dot diameter =>
    obtain ⟨spans, hspans, hcovers⟩ := Canvas.exists_spans_dot hway.2 hi hj hx hy hway.1
    exact Canvas.exists_shows_of_spans hw hh hi hj hcolour hspans hcovers
  | background =>
    have hcreate := Canvas.create_of_room hw0 hh0 hroom hcolour
    obtain ⟨fresh, hfresh⟩ : ∃ fresh : Canvas,
        fresh = ⟨.filled c.width c.height colour.clamped, colour, 0⟩ := ⟨_, rfl⟩
    rw [← hfresh] at hcreate
    have hwidth : fresh.width = c.width := by rw [hfresh]; rfl
    have hheight : fresh.height = c.height := by rw [hfresh]; rfl
    refine ⟨fresh, ?_, Canvas.shows_of_pixel (hwidth ▸ hw) (hheight ▸ hh) (hwidth ▸ hi)
      (hheight ▸ hj) hcolour ?_⟩
    · show (match Canvas.create _ _ _ with | .ok fresh => _ | .error e => _) = _
      rw [hcreate]
    · rw [hfresh]
      exact Picture.pixel_filled _ hi hj

end Paint

/-- A colour with four components, the last of which does not count. -/
def fourComponents : Argument := .list [.int 10, .int 20, .int 30, .int 0]

theorem paint_shows_dot : fourComponents.toColour = .ok ⟨10, 20, 30⟩ ∧
    Canvas.smallCanvas.IsReachedHere ∧
    (Argument.int 1).HasValue (1 : ℕ) ∧ (Argument.int 0).HasValue (0 : ℕ) ∧
    (Way.dot (.real 7.5)).IsTaken 2 1 ∧
    ∃ c', (Way.dot (.real 7.5)).paint (.int 1) (.int 0) fourComponents.toColour Canvas.smallCanvas =
      .ok () c' ∧ c'.Shows 1 0 ⟨10, 20, 30⟩ := by
  have ha : fourComponents.toColour = .ok ⟨10, 20, 30⟩ := rfl
  have hx : (Argument.int 1).HasValue (1 : ℕ) := by
    exact_mod_cast Argument.hasValue_int (n := 1) (Binary64.representable_int (by decide))
  have hy : (Argument.int 0).HasValue (0 : ℕ) := by
    exact_mod_cast Argument.hasValue_int (n := 0) (Binary64.representable_int (by decide))
  have hfinite : Binary64.isFinite 7.5 = true := by decide +kernel
  have hway : (Way.dot (.real 7.5)).IsTaken 2 1 := ⟨congrArg Except.ok hfinite, by decide⟩
  have hreached : Canvas.smallCanvas.IsReachedHere :=
    ⟨.int 2, .int 1, .ok ⟨255, 255, 255⟩, Canvas.smallCanvas, [], rfl, rfl⟩
  exact ⟨ha, hreached, hx, hy, hway,
    paint_shows ha (by decide) hreached hx hy (by decide) (by decide) hway⟩

/-- A colour with a component that does not fit a byte. -/
def tooRed : Argument := .list [.int 300, .int 0, .int 0]

/-- A colour that is accepted though a component does not fit a byte is refused where it is stored
in a pixel, and taken modulo 256 where it fills a canvas. -/
theorem not_paint_shows_tooRed : tooRed.toColour = .ok ⟨300, 0, 0⟩ ∧
    Way.pixel.paint (.int 0) (.int 0) tooRed.toColour Canvas.smallCanvas =
      .error (.ofComponent 300) Canvas.smallCanvas ∧
    ∃ c', Way.background.paint (.int 0) (.int 0) tooRed.toColour Canvas.smallCanvas = .ok () c' ∧
      ¬ c'.Shows 0 0 ⟨300, 0, 0⟩ := by
  refine ⟨rfl, rfl, ⟨.filled 2 1 ⟨44, 0, 0⟩, ⟨300, 0, 0⟩, 0⟩, rfl, ?_⟩
  rintro ⟨bytes, hget, hbytes⟩
  obtain rfl : [44, 0, 0] = bytes := Except.ok.inj hget
  exact absurd hbytes (by decide)

end Way

end TurtleCanvas
