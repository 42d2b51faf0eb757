import TurtleCanvas.Proofs.Canvas.Footprint
import TurtleCanvas.Proofs.Canvas.Painter
import TurtleCanvas.Proofs.Canvas.Path
import TurtleCanvas.Proofs.Exact.Inside

/-!
# Thin lines on a canvas

In exact arithmetic a line one pixel thick is painted along any segment, and between points that lie
on pixels of the canvas it is a path from the one pixel to the other.

* `Canvas.marginBox` is the rectangle that lines are clipped to;
* `Canvas.perform_thin_line` says what a thin line along any segment leaves, and
  `Canvas.perform_thin_line_misread` that its colour has to be one that can be made out;
* `Canvas.lineShape_of_inside` says that a line between points on pixels is drawn between these
  pixels as they are, and `Geometry.exists_path` that its footprint is a path.
-/

namespace TurtleCanvas

open Exact

variable {K : Type} [Field K] [LinearOrder K] [FloorRing K] [Trig K]
  {width height : ℕ}

namespace Canvas

/-! ### Painting -/

/-- The rectangle that lines of a thickness are clipped to. -/
def marginBox (width height thickness : ℕ) : Box K :=
  let margin : K := thickness / (2 : ℕ) + 1
  ⟨-margin, -margin, width - 1 + margin, height - 1 + margin⟩

omit [LinearOrder K] [FloorRing K] [Trig K] in
theorem marginBox_eq (width height thickness : ℕ) : (marginBox width height thickness : Box K) =
    ⟨-(thickness / 2 + 1), -(thickness / 2 + 1), width - 1 + (thickness / 2 + 1),
      height - 1 + (thickness / 2 + 1)⟩ := by
  rw [marginBox, Nat.cast_ofNat]

theorem paddedBox_eq (width height thickness : ℕ) :
    (paddedBox width height thickness : Except Fault (Box K)) =
      .ok (marginBox width height thickness) := by
  have htwo : ((2 : ℤ) : K) ≠ 0 := by norm_num
  rw [marginBox_eq]
  simp only [paddedBox, Scalar.int, Scalar.real, Scalar.add, Scalar.neg, div_of_ne htwo,
    Except.ok_bind]
  push_cast
  rfl

/-- A line of any segment can be planned. -/
theorem exists_lineShape (width height : ℕ) (s : Segment K) (penWidth : ℤ) :
    ∃ shape?, lineShape width height s penWidth = .ok shape? ∧
      ∀ shape, shape? = some shape → ∃ p q, shape = .line p q (thickness width height penWidth) := by
  simp only [lineShape, paddedBox_eq, Except.ok_bind]
  obtain ⟨kept, hclip⟩ := exists_clip s _
  rw [hclip, Except.ok_bind]
  cases kept with
  | none => exact ⟨none, rfl, fun shape h => nomatch h⟩
  | some kept =>
    refine ⟨some _, rfl, fun shape h => ?_⟩
    exact ⟨_, _, (Option.some.inj h).symm⟩

omit [Trig K] in
/-- A coordinate in the margin is not far outside the canvas after rounding. -/
theorem round_bounds_of_margin [IsStrictOrderedRing K] {size T : ℕ} {v : K}
    (h : -(T / 2 + 1) ≤ v ∧ v ≤ size - 1 + (T / 2 + 1)) :
    -(T + 3) ≤ 2 * roundHalfEven v ∧ 2 * roundHalfEven v ≤ 2 * size + T + 1 := by
  obtain ⟨hlow, hhigh⟩ := h
  obtain ⟨hbelow, habove⟩ := roundHalfEven_bounds v
  have hfirst : ((-(T + 3) : ℤ) : K) ≤ (2 * roundHalfEven v : ℤ) := by
    push_cast
    linarith
  have hlast : ((2 * roundHalfEven v : ℤ) : K) ≤ (2 * size + T + 1 : ℤ) := by
    push_cast
    linarith
  exact ⟨by exact_mod_cast hfirst, by exact_mod_cast hlast⟩

omit [Trig K] in
/-- A coordinate in the margin of a side that the painter can count is near enough for it after
rounding. -/
theorem takesCoordinate_of_margin [IsStrictOrderedRing K] {size T : ℕ} (hsize : size + T < 2 ^ 31)
    {v : K} (h : -(T / 2 + 1) ≤ v ∧ v ≤ size - 1 + (T / 2 + 1)) :
    Raster.takesCoordinate size (roundHalfEven v) = true := by
  have hbounds := round_bounds_of_margin h
  exact takesCoordinate_iff.2 ⟨by omega, by omega, by omega⟩

omit [Trig K] in
/-- A point in the margin is near enough for the painter after rounding. -/
theorem takesPoint_of_margin [IsStrictOrderedRing K] {T : ℕ} (hw : width + T < 2 ^ 31)
    (hh : height + T < 2 ^ 31) {z : K × K} (h : z ∈ (marginBox width height T : Box K).points) :
    Raster.takesPoint width height ⟨roundHalfEven z.1, roundHalfEven z.2⟩ = true := by
  rw [Box.mem_points_iff, marginBox_eq] at h
  exact Bool.and_eq_true_iff.2
    ⟨takesCoordinate_of_margin hw h.1, takesCoordinate_of_margin hh h.2⟩

/-- What is drawn of a segment can be painted, if it is not too thick and the painter can count the
canvas with its margin. -/
theorem spans_of_lineShape [IsStrictOrderedRing K] {s : Segment K} {penWidth : ℤ} {shape : Shape}
    (h : lineShape width height s penWidth = .ok (some shape))
    (hT : thickness width height penWidth ≤ Raster.maxThickness)
    (hw : width + thickness width height penWidth < 2 ^ 31)
    (hh : height + thickness width height penWidth < 2 ^ 31) :
    ∃ p q, shape = .line p q (thickness width height penWidth) ∧ shape.spans width height =
      .ok (Raster.line width height p q (thickness width height penWidth)) := by
  rw [lineShape, paddedBox_eq, Except.ok_bind] at h
  obtain ⟨kept?, hclip, h⟩ := Except.bind_eq_ok_iff.1 h
  cases kept? with
  | none => exact absurd h (by simp [pure, Except.pure])
  | some kept =>
    obtain ⟨hstart, hstop⟩ := mem_points_of_clip hclip
    obtain rfl := Option.some.inj (Except.ok.inj h)
    exact ⟨_, _, rfl, spans_line hT (takesPoint_of_margin (z := kept.start) hw hh hstart)
      (takesPoint_of_margin (z := kept.stop) hw hh hstop)⟩

/-- What a thin line is to paint is known for every segment. -/
theorem exists_plan_thin [IsStrictOrderedRing K] {width height : ℕ}
    (hcounted : IsCounted width height) (s : Segment K) (colour : Colour) :
    ∃ spans?, (Geometry.line s (.ok 1)).spans width height = .ok spans? ∧
      plan width height (lineShape width height s 1) (.ok colour) =
        .ok (spans?.map fun spans => (spans, colour)) := by
  obtain ⟨shape?, hshape, -⟩ := exists_lineShape width height s 1
  cases shape? with
  | none =>
    refine ⟨none, ?_, ?_⟩
    · simp only [Geometry.spans, hshape, Except.ok_bind]
      rfl
    · simp only [plan, hshape, Except.ok_bind]
      rfl
  | some shape =>
    have hthin : thickness width height 1 ≤ 1 := by
      unfold thickness
      omega
    obtain ⟨hw, hh⟩ := hcounted
    obtain ⟨p, q, rfl, hdrawn⟩ := spans_of_lineShape hshape
      (hthin.trans (by decide)) (by omega) (by omega)
    refine ⟨some _, Geometry.spans_line_iff.2 ⟨1, rfl, _, hshape, hdrawn⟩, ?_⟩
    simp only [plan, hshape, hdrawn, Except.ok_bind]
    rfl

/-- **A thin line is painted without fail**, in a colour that can be made out, and changes the pixels
of its footprint. -/
theorem perform_thin_line [IsStrictOrderedRing K] {colour : Colour}
    (hcolour : canMakeOut colour = true) (s : Segment K) {c : Canvas}
    (hcounted : IsCounted c.width c.height) :
    ∃ c', perform (.line s (.ok colour) (.ok 1)) c = .ok () c' ∧
      ∀ x y, x < c.width → y < c.height → c'.picture.pixel x y =
        if (x, y) ∈ (Geometry.line s (.ok 1)).footprint c.width c.height then colour.brushed
        else c.picture.pixel x y := by
  obtain ⟨spans?, hspans, hplan⟩ := exists_plan_thin hcounted s colour
  have hperform : perform (.line s (.ok colour) (.ok 1)) c =
      enact (.ok (spans?.map fun spans => (spans, colour))) c := by
    rw [← hplan]
    rfl
  have hmem : ∀ x y, (x, y) ∈ (Geometry.line s (.ok 1)).footprint c.width c.height ↔
      (x < c.width ∧ y < c.height) ∧ ∃ spans, spans? = some spans ∧ Span.Covers spans x y := by
    intro x y
    simp only [Geometry.mem_footprint_iff, hspans, Except.ok.injEq]
  rw [hperform]
  cases spans? with
  | none =>
    refine ⟨c, rfl, fun x y hx hy => ?_⟩
    rw [if_neg fun h => ?_]
    obtain ⟨-, spans, h, -⟩ := (hmem x y).1 h
    exact nomatch h
  | some spans =>
    refine ⟨c.mark spans colour, by simp [enact, hcolour], fun x y hx hy => ?_⟩
    rw [mark, Picture.pixel_paint _ _ hx hy]
    simp [hmem, hx, hy]

/-! ### Lines between pixels -/

theorem pixelAt_eq_some_iff_round {x y : K} {p : ℕ × ℕ} :
    pixelAt width height x y = .ok (some p) ↔ (p.1 < width ∧ p.2 < height) ∧
      roundHalfEven x = p.1 ∧ roundHalfEven y = p.2 := by
  obtain ⟨i, j⟩ := p
  rw [pixelAt_eq_some_iff]
  simp only [Scalar.round, Except.ok.injEq]

variable [IsStrictOrderedRing K]

omit [Trig K] in
/-- A coordinate on a pixel is at most half a pixel outside the middles of the canvas. -/
theorem bounds_of_round {x : K} {i size : ℕ} (h : roundHalfEven x = i) (hi : i < size) :
    -(1 / 2) ≤ x ∧ x ≤ size - 1 + 1 / 2 := by
  obtain ⟨hnear, -⟩ := roundHalfEven_spec x
  rw [h, abs_le, Int.cast_natCast] at hnear
  have hfirst : (0 : K) ≤ i := i.cast_nonneg
  have hlast : (i : K) + 1 ≤ size := by exact_mod_cast hi
  constructor <;> linarith [hnear.1, hnear.2]

/-- **A line between points on pixels of the canvas is drawn between these pixels.** -/
theorem lineShape_of_inside {s : Segment K} {p q : ℕ × ℕ}
    (hp : pixelAt width height s.x0 s.y0 = .ok (some p))
    (hq : pixelAt width height s.x1 s.y1 = .ok (some q)) :
    lineShape width height s 1 = .ok (some (.line (.ofPixel p) (.ofPixel q) 1)) := by
  obtain ⟨⟨hpw, hph⟩, hpx, hpy⟩ := pixelAt_eq_some_iff_round.1 hp
  obtain ⟨⟨hqw, hqh⟩, hqx, hqy⟩ := pixelAt_eq_some_iff_round.1 hq
  have hthickness : thickness width height 1 = 1 := by
    unfold thickness sizeLimit
    omega
  have hclip : s.clip (marginBox width height 1) = .ok (some s) := by
    have hx0 := bounds_of_round hpx hpw
    have hy0 := bounds_of_round hpy hph
    have hx1 := bounds_of_round hqx hqw
    have hy1 := bounds_of_round hqy hqh
    rw [marginBox_eq, Nat.cast_one]
    -- The canvas is clipped a pixel and a half outside the middles of its pixels.
    refine clip_of_inside ⟨?_, ?_⟩ ⟨?_, ?_⟩ ⟨?_, ?_⟩ ⟨?_, ?_⟩
    all_goals simp only; linarith [hx0.1, hx0.2, hy0.1, hy0.2, hx1.1, hx1.2, hy1.1, hy1.2]
  rw [lineShape, hthickness, paddedBox_eq, Except.ok_bind, hclip, Except.ok_bind]
  simp only [Scalar.round, Except.ok_bind, hpx, hpy, hqx, hqy]
  rfl

omit [LinearOrder K] [FloorRing K] [Trig K] [IsStrictOrderedRing K] in
theorem takesPoint_ofPixel (hcounted : IsCounted width height) {p : ℕ × ℕ}
    (hp : p.1 < width ∧ p.2 < height) : Raster.takesPoint width height (.ofPixel p) = true := by
  obtain ⟨hw, hh⟩ := hcounted
  refine takesPoint_iff.2 ⟨⟨by omega, by omega⟩, ?_⟩
  simp only [Point.FitsWord, Point.ofPixel]
  omega

/-- Nothing is cut off a line between pixels of the canvas. -/
theorem thinLine_of_inside {p q : ℕ × ℕ} (hp : p.1 < width ∧ p.2 < height)
    (hq : q.1 < width ∧ q.2 < height) :
    Raster.thinLine width height (.ofPixel p) (.ofPixel q) =
      (Raster.segmentPixels (.ofPixel p) (.ofPixel q)).map Span.ofPoint := by
  have hpx : Raster.side p.1 (width - 1) = .inRange := Raster.side_eq_inRange_iff.2 (by omega)
  have hpy : Raster.side p.2 (height - 1) = .inRange := Raster.side_eq_inRange_iff.2 (by omega)
  have hqx : Raster.side q.1 (width - 1) = .inRange := Raster.side_eq_inRange_iff.2 (by omega)
  have hqy : Raster.side q.2 (height - 1) = .inRange := Raster.side_eq_inRange_iff.2 (by omega)
  have hmisses : Raster.missesBy (.ofPixel p) (.ofPixel q) (width - 1) (height - 1) = false := by
    simp only [Raster.missesBy, Point.ofPixel, hpx, hpy]
    rfl
  have hinside : Raster.bothInside (.ofPixel p) (.ofPixel q) (width - 1) (height - 1) = true := by
    simp only [Raster.bothInside, Point.ofPixel, hpx, hpy, hqx, hqy]
    rfl
  simp [Raster.thinLine, Raster.visible?, hmisses, hinside]

end Canvas

namespace Geometry

variable [IsStrictOrderedRing K]

/-- What a line between pixels of the canvas is to paint. -/
theorem spans_thin_of_inside (hcounted : Canvas.IsCounted width height) {s : Segment K}
    {p q : ℕ × ℕ}
    (hp : Canvas.pixelAt width height s.x0 s.y0 = .ok (some p))
    (hq : Canvas.pixelAt width height s.x1 s.y1 = .ok (some q)) :
    (line s (.ok 1)).spans width height =
      .ok (some ((Raster.segmentPixels (.ofPixel p) (.ofPixel q)).map Span.ofPoint)) := by
  have hpin := (Canvas.pixelAt_eq_some_iff_round.1 hp).1
  have hqin := (Canvas.pixelAt_eq_some_iff_round.1 hq).1
  refine spans_line_iff.2 ⟨1, rfl, _, Canvas.lineShape_of_inside hp hq, ?_⟩
  rw [Canvas.spans_line (by decide) (Canvas.takesPoint_ofPixel hcounted hpin)
    (Canvas.takesPoint_ofPixel hcounted hqin), ← Canvas.thinLine_of_inside hpin hqin]
  rfl

/-- The footprint of a line between pixels of the canvas are the pixels along it. -/
theorem mem_footprint_thin_iff (hcounted : Canvas.IsCounted width height) {s : Segment K}
    {p q : ℕ × ℕ}
    (hp : Canvas.pixelAt width height s.x0 s.y0 = .ok (some p))
    (hq : Canvas.pixelAt width height s.x1 s.y1 = .ok (some q)) {r : ℕ × ℕ} :
    r ∈ (line s (.ok 1)).footprint width height ↔ r ∈ linePath p q := by
  have hpin := (Canvas.pixelAt_eq_some_iff_round.1 hp).1
  have hqin := (Canvas.pixelAt_eq_some_iff_round.1 hq).1
  obtain ⟨i, j⟩ := r
  simp only [mem_footprint_iff, spans_thin_of_inside hcounted hp hq, Except.ok.injEq, Option.some.injEq,
    exists_eq_left', Span.covers_map_ofPoint_iff, mem_linePath_iff]
  refine and_iff_right_of_imp fun hr => ?_
  obtain ⟨hi, hj⟩ := le_of_mem_linePath (r := (i, j)) (mem_linePath_iff.2 hr)
  simp only at hi hj
  exact ⟨by omega, by omega⟩

/-- **The footprint of a line between pixels of the canvas is a path** from the one to the other. -/
theorem exists_path (hcounted : Canvas.IsCounted width height) {s : Segment K} {p q : ℕ × ℕ}
    (hp : Canvas.pixelAt width height s.x0 s.y0 = .ok (some p))
    (hq : Canvas.pixelAt width height s.x1 s.y1 = .ok (some q)) :
    ∃ path, PixelPath path p q ∧
      ∀ r, r ∈ path ↔ r ∈ (line s (.ok 1)).footprint width height :=
  ⟨linePath p q, pixelPath_linePath p q, fun _ => (mem_footprint_thin_iff hcounted hp hq).symm⟩

end Geometry

/-- A line between pixels of the canvas is an error in a colour that cannot be made out. -/
theorem Canvas.perform_thin_line_misread [IsStrictOrderedRing K] {colour : Colour}
    (hcolour : canMakeOut colour = false) {s : Segment K} {c : Canvas}
    (hcounted : IsCounted c.width c.height) {p q : ℕ × ℕ}
    (hp : pixelAt c.width c.height s.x0 s.y0 = .ok (some p))
    (hq : pixelAt c.width c.height s.x1 s.y1 = .ok (some q)) :
    ∃ c', perform (.line s (.ok colour) (.ok 1)) c = .error .colourMisread c' := by
  obtain ⟨spans?, hspans, hplan⟩ := exists_plan_thin hcounted s colour
  obtain rfl := Except.ok.inj (hspans.symm.trans (Geometry.spans_thin_of_inside hcounted hp hq))
  have henact : perform (.line s (.ok colour) (.ok 1)) c =
      enact (plan c.width c.height (lineShape c.width c.height s 1) (.ok colour)) c := rfl
  rw [henact, hplan]
  simp [enact, hcolour]

end TurtleCanvas
