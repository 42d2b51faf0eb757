import TurtleCanvas.Proofs.Canvas.Covered
import TurtleCanvas.Proofs.Raster.Stroke

/-!
# Drawing is local

What is drawn of a line is bounded by its two ends as they are after clipping and rounding, and what
is drawn of a dot by its centre and radius.  The whole numbers that the drawing rules work with are
small then: the ends are in the margin of the canvas, which is no wider than the thickness, and the
thickness is at most twice the sum of the sides.  So no rounding on the way adds up to more than a
pixel.

* `Canvas.DiffersOnlyIn` says that a canvas differs from another one in a region at most;
* `Canvas.spread` is how far a line of a thickness may reach, and `Canvas.inBox_of_covers_line` says
  that it reaches no farther;
* `Canvas.drawing_is_local` says where lines and dots change pixels.
-/

namespace TurtleCanvas

namespace Canvas

/-! ### Regions -/

/-- A canvas has the size of another one and its pixels, but for those of a region. -/
structure DiffersOnlyIn (region : Point → Prop) (c c' : Canvas) : Prop where
  width : c'.width = c.width
  height : c'.height = c.height
  pixel : ∀ i j, i < c.width → j < c.height → ¬ region (.ofPixel (i, j)) →
    c'.picture.pixel i j = c.picture.pixel i j

theorem DiffersOnlyIn.refl (region : Point → Prop) (c : Canvas) : DiffersOnlyIn region c c :=
  ⟨rfl, rfl, fun _ _ _ _ _ => rfl⟩

/-- Painted runs change pixels that they cover. -/
theorem differsOnlyIn_mark {region : Point → Prop} {c : Canvas} {spans : List Span}
    (h : ∀ i j : ℕ, i < c.width → j < c.height → Span.Covers spans i j → region (.ofPixel (i, j)))
    (colour : Colour) : DiffersOnlyIn region c (c.mark spans colour) := by
  refine ⟨width_mark _ _ _, height_mark _ _ _, fun i j hi hj hregion => ?_⟩
  rw [mark, Picture.pixel_paint _ _ hi hj, if_neg fun hcovers => hregion (h i j hi hj hcovers)]

/-! ### Lines -/

/-- How far a line of a thickness may reach out of the rectangle of its ends. -/
def spread (T : ℕ) : ℤ := if T = 1 then 0 else ((T + 1) / 2 : ℕ) + 1

open scoped Exact

variable {K : Type} [Field K] [LinearOrder K] [IsStrictOrderedRing K] [FloorRing K]

/-- **How far a line reaches** between pixels that points in the margin are moved to. -/
theorem inBox_of_covers_line {width height T : ℕ} (hsize : width + height ≤ 16383)
    (hT : 1 ≤ T ∧ T ≤ Raster.maxThickness) {z w : K × K}
    (hz : z ∈ (marginBox width height T : Box K).points)
    (hw : w ∈ (marginBox width height T : Box K).points) {i j : ℕ} (hi : i < width) (hj : j < height)
    (h : Span.Covers (Raster.line width height (.nearest z) (.nearest w) T) i j) :
    Point.InBox (spread T) (.nearest z) (.nearest w) (.ofPixel (i, j)) := by
  have hzbounds := nearest_bounds hz
  have hwbounds := nearest_bounds hw
  obtain ⟨hone, hmax⟩ := hT
  generalize Point.nearest z = p at hzbounds h ⊢
  generalize Point.nearest w = q at hwbounds h ⊢
  have hlimit : Raster.maxThickness = 32767 := rfl
  rw [Raster.line] at h
  rw [spread]
  rcases hone.eq_or_lt with rfl | hthick
  · rw [if_pos le_rfl] at h
    exact Raster.inBox_of_covers_thinLine (by omega) (by omega) ⟨by omega, by omega⟩ h
  · rw [if_neg (by omega)] at h ⊢
    have hunit : Raster.unit = 65536 := rfl
    exact Raster.inBox_of_covers_thickLine (by omega) hmax (by omega) (by omega) (by omega)
      (by omega) h

/-! ### Lines and dots -/

variable [Trig K]

/-- **Drawing is local.**  On a canvas on which the painter takes every thickness, a line is drawn
without fail.  It changes nothing when it is clipped away; otherwise it changes pixels that are at
most half its thickness, rounded up, and one pixel outside the rectangle of the pixels that are
nearest to its clipped ends, and none outside that rectangle when it is one pixel thick.  A dot changes
pixels in the square of its radius around the pixel nearest to its centre, and paints that pixel when
it is on the canvas. -/
theorem drawing_is_local {c : Canvas} (hc : c.width + c.height ≤ 16383) {colour : Colour}
    (hcolour : colour.FitsBytes) :
    (∀ (s : Segment K) (penWidth : ℤ),
      let T := thickness c.width c.height penWidth
      ∃ c', drawLine s (.ok colour) penWidth c = .ok () c' ∧
        ((paddedBox c.width c.height T >>= s.clip) = .ok none → c' = c) ∧
        ∀ kept, (paddedBox c.width c.height T >>= s.clip) = .ok (some kept) →
          DiffersOnlyIn (Point.InBox (spread T) (.nearest kept.start) (.nearest kept.stop)) c c') ∧
    ∀ x y diameter : K, ∃ c', dot x y diameter (.ok colour) c = .ok () c' ∧
      DiffersOnlyIn (Point.InBox (cappedRadius c.width c.height diameter) (.nearest (x, y))
        (.nearest (x, y))) c c' ∧
      ∀ p, pixelAt c.width c.height x y = .ok (some p) → c'.Shows p.1 p.2 colour := by
  constructor
  · intro s penWidth T
    have hthin : T ≤ Raster.maxThickness := (thickness_le_maxThickness_iff _ _ _).2 (.inl hc)
    have hshape := lineShape_eq c.width c.height s penWidth
    rw [paddedBox_eq, Except.ok_bind]
    obtain ⟨kept?, hclip⟩ := Exact.exists_clip s (marginBox c.width c.height T)
    rw [hclip] at hshape ⊢
    cases kept? with
    | none => exact ⟨c, drawLine_of_lineShape_none hshape _, fun _ => rfl, fun kept h => by simp at h⟩
    | some kept =>
      obtain ⟨hstart, hstop⟩ := Exact.mem_points_of_clip hclip
      have hspans := spans_of_lineShape_small hc hshape
      refine ⟨_, drawLine_of_spans hcolour hshape hspans, fun h => by simp at h, ?_⟩
      intro kept' h
      obtain rfl : kept = kept' := by simpa using h
      exact differsOnlyIn_mark (fun i j hi hj hcovers => inBox_of_covers_line hc
        ⟨one_le_thickness (by omega) penWidth, hthin⟩ hstart hstop hi hj hcovers) colour
  · intro x y diameter
    have hshape := dotShape_eq c.width c.height x y diameter
    dsimp only at hshape
    split_ifs at hshape with hreach
    · have hspans := spans_of_inReach_small hc hreach
      refine ⟨_, dot_of_spans hcolour hshape hspans, ?_, fun p hp => ?_⟩
      · exact differsOnlyIn_mark (fun i j _ _ hcovers =>
          Raster.inBox_of_covers_disk (.inl hcovers)) colour
      · obtain ⟨hi, hj⟩ := (pixelAt_eq_some_iff_round.1 hp).1
        have hcentre : Point.nearest (x, y) = .ofPixel p := nearest_of_pixelAt (z := (x, y)) hp
        rw [hcentre]
        exact shows_mark (by omega) (by omega) hi hj hcolour (covers_disk _ _)
    · refine ⟨c, dot_of_dotShape_none hshape _, .refl _ c, fun p hp => ?_⟩
      rw [dotShape_of_pixelAt hp] at hshape
      exact absurd hshape (by simp)

/-- A stroke that comes in over the left side of a canvas, and a dot near a corner of it. -/
theorem drawing_is_local_square :
    (∃ c', drawLine (⟨-2, 4, 3, 4⟩ : Segment ℝ) (.ok .black) 4 squareCanvas = .ok () c' ∧
      DiffersOnlyIn (Point.InBox 3 ⟨-2, 4⟩ ⟨3, 4⟩) squareCanvas c') ∧
    ∃ c', dot (1 : ℝ) 2 4 (.ok .black) squareCanvas = .ok () c' ∧
      DiffersOnlyIn (Point.InBox 2 ⟨1, 2⟩ ⟨1, 2⟩) squareCanvas c' ∧ c'.Shows 1 2 .black := by
  have hround : ∀ n : ℤ, roundHalfEven (n : ℝ) = n := roundHalfEven_intCast
  have hsize : squareCanvas.width = 10 ∧ squareCanvas.height = 10 := ⟨rfl, rfl⟩
  obtain ⟨hline, hdot⟩ := drawing_is_local (K := ℝ) (c := squareCanvas) (by decide)
    (by decide : Colour.black.FitsBytes)
  constructor
  · obtain ⟨c', hdraw, -, hlocal⟩ := hline ⟨-2, 4, 3, 4⟩ 4
    have hT : thickness squareCanvas.width squareCanvas.height 4 = 4 := by decide
    have hclip : (⟨-2, 4, 3, 4⟩ : Segment ℝ).clip
        (marginBox squareCanvas.width squareCanvas.height 4) = .ok (some ⟨-2, 4, 3, 4⟩) := by
      rw [marginBox_eq, hsize.1, hsize.2]
      refine Exact.clip_of_inside ⟨?_, ?_⟩ ⟨?_, ?_⟩ ⟨?_, ?_⟩ ⟨?_, ?_⟩
      all_goals norm_num
    rw [hT] at hlocal
    have hregion := hlocal ⟨-2, 4, 3, 4⟩ (by rw [paddedBox_eq, Except.ok_bind, hclip])
    have hstart : Point.nearest ((-2, 4) : ℝ × ℝ) = ⟨-2, 4⟩ :=
      congrArg₂ Point.mk (by exact_mod_cast hround (-2)) (by exact_mod_cast hround 4)
    have hstop : Point.nearest ((3, 4) : ℝ × ℝ) = ⟨3, 4⟩ :=
      congrArg₂ Point.mk (by exact_mod_cast hround 3) (by exact_mod_cast hround 4)
    exact ⟨c', hdraw, hstart ▸ hstop ▸ hregion⟩
  · obtain ⟨c', hdraw, hlocal, hcentre⟩ := hdot 1 2 4
    have hx : roundHalfEven (1 : ℝ) = 1 := by exact_mod_cast hround 1
    have hy : roundHalfEven (2 : ℝ) = 2 := by exact_mod_cast hround 2
    have hradius : cappedRadius squareCanvas.width squareCanvas.height (4 : ℝ) = 2 := by
      rw [cappedRadius_eq, show (4 / 2 : ℝ) = 2 by norm_num, hy]
      decide
    have hnearest : Point.nearest ((1, 2) : ℝ × ℝ) = ⟨1, 2⟩ := congrArg₂ Point.mk hx hy
    rw [hradius, hnearest] at hlocal
    exact ⟨c', hdraw, hlocal, hcentre (1, 2) (pixelAt_eq_some_iff_round.2 ⟨by decide, hx, hy⟩)⟩

end Canvas

end TurtleCanvas
