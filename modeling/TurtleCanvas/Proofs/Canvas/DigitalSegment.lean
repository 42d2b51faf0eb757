import TurtleCanvas.Proofs.Canvas.ThinLine
import TurtleCanvas.Proofs.Exact.Real
import TurtleCanvas.Proofs.Raster.Digital

/-!
# Digital segments on a canvas

A thin line between points that round to pixels of the canvas is not clipped.  It is drawn as the
digital segment of these pixels: one pixel for each step along the longer axis, the nearest to the
ideal line.  A pixel where two are as near is chosen in the same way from both ends, so that the line
back paints the same pixels.

* `IsDigital` is a path of pixels that is a digital segment, and `isDigital_linePath` says that the
  pixels of a line are one;
* `Canvas.drawLine_digital` says what a thin line and the line back leave of a canvas.
-/

namespace TurtleCanvas

open Exact Raster

/-- A path of pixels that has one pixel for each step along the longer axis of the line between its
ends, at most half a pixel from that line along the shorter one. -/
structure IsDigital (path : List (ℕ × ℕ)) (p q : ℕ × ℕ) : Prop extends PixelPath path p q where
  length : path.length = max (q.1 - p.1 : ℤ).natAbs (q.2 - p.2 : ℤ).natAbs + 1
  nodup : path.Nodup
  step : ∀ k r, path[k]? = some r → IsStep (.ofPixel p) (.ofPixel q) k (.ofPixel r)

/-- The pixels of a line are a digital segment. -/
theorem isDigital_linePath (p q : ℕ × ℕ) : IsDigital (linePath p q) p q where
  toPixelPath := pixelPath_linePath p q
  length := by simp [linePath, longer, Point.ofPixel]
  nodup := by
    refine List.nodup_range.map_on fun j hj k hk h => ?_
    have hj := Nat.lt_succ_iff.1 (List.mem_range.1 hj)
    have hk := Nat.lt_succ_iff.1 (List.mem_range.1 hk)
    have hsame : pixelAlong (.ofPixel p) (.ofPixel q) j = pixelAlong (.ofPixel p) (.ofPixel q) k := by
      rw [← (pixelOn_spec p q hj).1, h, (pixelOn_spec p q hk).1]
    exact (hsame ▸ isStep_pixelAlong _ _ hj).unique (isStep_pixelAlong _ _ hk) hj hk
  step := by
    intro k r hr
    simp only [linePath, List.getElem?_map, Option.map_eq_some_iff] at hr
    obtain ⟨i, hi, rfl⟩ := hr
    obtain ⟨hk, rfl⟩ := List.getElem?_eq_some_iff.1 hi
    rw [List.length_range] at hk
    have hk := Nat.lt_succ_iff.1 hk
    rw [List.getElem_range, (pixelOn_spec p q hk).1]
    exact isStep_pixelAlong _ _ hk

namespace Canvas

variable {K : Type} [Field K] [LinearOrder K] [FloorRing K] [Trig K] [IsStrictOrderedRing K]

/-- Pens of a width below one draw as one of width one does. -/
theorem drawLine_of_le_one {α : Type} [Scalar α] {penWidth : ℤ} (h : penWidth ≤ 1) (s : Segment α)
    (ink : Ink) : drawLine s ink penWidth = drawLine s ink 1 := by
  have hpen : max 1 penWidth = max 1 1 := by omega
  funext c
  simp only [drawLine, lineShape, thickness, hpen]

/-- A thin line between pixels of the canvas paints the pixels of the line. -/
theorem drawLine_of_inside {c : Canvas} (hcounted : IsCounted c.width c.height) {s : Segment K}
    {p q : ℕ × ℕ}
    (hp : pixelAt c.width c.height s.x0 s.y0 = .ok (some p))
    (hq : pixelAt c.width c.height s.x1 s.y1 = .ok (some q)) {colour : Colour}
    (hcolour : colour.FitsBytes) :
    drawLine s (.ok colour) 1 c =
      .ok () (c.mark ((segmentPixels (.ofPixel p) (.ofPixel q)).map Span.ofPoint) colour) := by
  obtain ⟨n, hn, shape, hshape, hspans⟩ :=
    Geometry.spans_line_iff.1 (Geometry.spans_thin_of_inside hcounted hp hq)
  obtain rfl := Except.ok.inj hn
  exact drawLine_of_spans hcolour hshape hspans

/-- **A thin line is the digital segment.**  In exact arithmetic, let the ends of a segment round to
pixels of a canvas that the painter can count.  A line of a pen no wider than one returns, and it
changes the pixels of a digital segment between these pixels, all of them on the canvas, to its
colour, and no other pixel.  The line back leaves the same canvas. -/
theorem drawLine_digital {c : Canvas} (hcounted : IsCounted c.width c.height) {s : Segment K}
    {p q : ℕ × ℕ}
    (hp : pixelAt c.width c.height s.x0 s.y0 = .ok (some p))
    (hq : pixelAt c.width c.height s.x1 s.y1 = .ok (some q)) {colour : Colour}
    (hcolour : colour.FitsBytes) {penWidth : ℤ} (hpen : penWidth ≤ 1) :
    ∃ c' path, drawLine s (.ok colour) penWidth c = .ok () c' ∧
      drawLine ⟨s.x1, s.y1, s.x0, s.y0⟩ (.ok colour) penWidth c = .ok () c' ∧
      IsDigital path p q ∧ (∀ r ∈ path, r.1 < c.width ∧ r.2 < c.height) ∧
      (c'.width = c.width ∧ c'.height = c.height) ∧
      ∀ x y, x < c.width → y < c.height → c'.picture.pixel x y =
        if (x, y) ∈ path then colour.clamped else c.picture.pixel x y := by
  have hpin := (pixelAt_eq_some_iff_round.1 hp).1
  have hqin := (pixelAt_eq_some_iff_round.1 hq).1
  have hforth := drawLine_of_inside hcounted hp hq hcolour
  have hback := drawLine_of_inside hcounted (s := ⟨s.x1, s.y1, s.x0, s.y0⟩) hq hp hcolour
  -- The runs of the line back are others, but they cover the same pixels.
  have hsame : c.picture.paint ((segmentPixels (.ofPixel q) (.ofPixel p)).map Span.ofPoint)
      colour.brushed = c.picture.paint ((segmentPixels (.ofPixel p) (.ofPixel q)).map Span.ofPoint)
        colour.brushed :=
    Picture.paint_congr _ fun x y _ _ => Span.covers_map_ofPoint_iff.trans
      (mem_segmentPixels_comm.trans Span.covers_map_ofPoint_iff.symm)
  rw [mark, hsame] at hback
  refine ⟨_, linePath p q, (congrFun (drawLine_of_le_one hpen s _) c).trans hforth,
    (congrFun (drawLine_of_le_one hpen _ _) c).trans hback, isDigital_linePath p q, fun r hr => ?_,
    ⟨width_mark _ _ _, height_mark _ _ _⟩, fun x y hx hy => ?_⟩
  · obtain ⟨hcolumn, hrow⟩ := le_of_mem_linePath hr
    omega
  · rw [mark, Picture.pixel_paint _ _ hx hy, Colour.brushed_eq hcolour]
    simp only [Span.covers_map_ofPoint_iff, mem_linePath_iff, Point.ofPixel]

/-- A canvas of four by three pixels. -/
def oblongCanvas : Canvas := ⟨.filled 4 3 ⟨255, 255, 255⟩, ⟨255, 255, 255⟩, 0⟩

/-- A line down to the right whose ends are half a pixel off is a digital segment of four pixels. -/
theorem drawLine_digital_oblong : IsCounted oblongCanvas.width oblongCanvas.height ∧ ∃ c' path,
    drawLine (⟨1 / 2, 0, 3, 3 / 2⟩ : Segment ℝ) (.ok .black) 0 oblongCanvas = .ok () c' ∧
      IsDigital path (0, 0) (3, 2) ∧ path.length = 4 := by
  have hcounted : IsCounted oblongCanvas.width oblongCanvas.height := by decide
  have hpen : (0 : ℤ) ≤ 1 := by decide
  have hblack : Colour.black.FitsBytes := by decide
  have hhalf : roundHalfEven (1 / 2 : ℝ) = 0 := roundHalfEven_eq_iff.2 ⟨by norm_num, by simp⟩
  have hzero : roundHalfEven (0 : ℝ) = 0 := roundHalfEven_of_eq (by norm_num)
  have hthree : roundHalfEven (3 : ℝ) = 3 := roundHalfEven_of_eq (by norm_num)
  have htwo : roundHalfEven (3 / 2 : ℝ) = 2 := roundHalfEven_eq_iff.2 ⟨by norm_num, fun _ => by decide⟩
  obtain ⟨c', path, hdrawn, -, hpath, -⟩ := drawLine_digital hcounted
    (s := (⟨1 / 2, 0, 3, 3 / 2⟩ : Segment ℝ)) (p := (0, 0)) (q := (3, 2))
    (pixelAt_eq_some_iff_round.2 ⟨by decide, hhalf, hzero⟩)
    (pixelAt_eq_some_iff_round.2 ⟨by decide, hthree, htwo⟩)
    hblack hpen
  exact ⟨hcounted, c', path, hdrawn, hpath, hpath.length⟩

end Canvas

end TurtleCanvas
