import TurtleCanvas.Proofs.Canvas.Capped
import TurtleCanvas.Proofs.Canvas.OneColour
import TurtleCanvas.Proofs.Raster.Disk

/-!
# Lines and dots that cover the canvas

From any of its pixels, no pixel of a canvas is farther away than the sum of its sides.  A dot whose
radius is capped has twice that for its radius, and a line whose width is capped has a disk of just
that radius at each end.  So both cover the canvas as soon as the centre of the dot, or an end of the
line, is on it: an end that is on the canvas is not moved by clipping.

* `Canvas.covers_disk_of_pixel` says which disks cover a canvas, and `Canvas.covers_line_of_disk`
  which disks a line has at its ends;
* `Canvas.exists_lineShape_of_end` and `Canvas.dotShape_of_pixelAt` say where a line with an end on
  the canvas and a dot with its centre on it are drawn;
* `Canvas.capped_covers` says that such a line and such a dot of a capped size leave the canvas in
  their colour.
-/

namespace TurtleCanvas

namespace Canvas

variable {width height : ℕ}

/-! ### Disks and thick lines -/

/-- A disk around a pixel of a canvas covers it if its radius is at least the sum of its sides. -/
theorem covers_disk_of_pixel {p : ℕ × ℕ} (hp : p.1 < width ∧ p.2 < height) {radius : ℕ}
    (hradius : width + height ≤ radius) {i j : ℕ} (hi : i < width) (hj : j < height) :
    Span.Covers (Raster.disk (.ofPixel p) radius) i j := by
  obtain ⟨m, n⟩ := p
  rw [Raster.covers_disk_iff]
  simp only [Point.ofPixel] at hp ⊢
  have hcolumn : ((i : ℤ) - m) ^ 2 ≤ (width : ℤ) ^ 2 := sq_le_sq' (by omega) (by omega)
  have hrow : ((j : ℤ) - n) ^ 2 ≤ (height : ℤ) ^ 2 := sq_le_sq' (by omega) (by omega)
  have hsum : ((width : ℤ) + height) ^ 2 ≤ (radius : ℤ) ^ 2 :=
    pow_le_pow_left₀ (by positivity) (by exact_mod_cast hradius) 2
  nlinarith [Int.natCast_nonneg width, Int.natCast_nonneg height]

/-- The disks at the ends of a line are as large as half its thickness. -/
theorem covers_line_of_disk {p q : Point} {radius : ℕ} (hradius : 1 ≤ radius) {x y : ℤ}
    (h : Span.Covers (Raster.disk p radius) x y ∨ Span.Covers (Raster.disk q radius) x y) :
    Span.Covers (Raster.line width height p q (2 * radius)) x y := by
  have hthick : ¬ 2 * radius ≤ 1 := by omega
  have hends : (((2 * radius : ℕ) : ℤ) * 32768 + 32768) / 65536 = (radius : ℤ) := by omega
  rw [Raster.line, if_neg hthick, Raster.thickLine]
  simp only [hends, Span.covers_append]
  tauto

/-! ### Lines with an end on the canvas -/

open scoped Exact

variable {K : Type} [Field K] [LinearOrder K] [IsStrictOrderedRing K] [FloorRing K] [Trig K]

omit [IsStrictOrderedRing K] in
theorem nearest_of_pixelAt {z : K × K} {p : ℕ × ℕ}
    (hp : pixelAt width height z.1 z.2 = .ok (some p)) : Point.nearest z = .ofPixel p := by
  obtain ⟨-, hx, hy⟩ := pixelAt_eq_some_iff_round.1 hp
  exact congrArg₂ Point.mk hx hy

/-- What is drawn of a line reaches to every point of it that is on a pixel. -/
theorem exists_lineShape_of_pixelAt {s : Segment K} {t : K} (ht : t ∈ Set.Icc (0 : K) 1) {p : ℕ × ℕ}
    (hp : pixelAt width height (s.pointOf t).1 (s.pointOf t).2 = .ok (some p)) (penWidth : ℤ) :
    ∃ a b, lineShape width height s penWidth = .ok (some (.line (.nearest (s.pointOf a))
      (.nearest (s.pointOf b)) (thickness width height penWidth))) ∧
      (0 ≤ a ∧ a ≤ t) ∧ t ≤ b ∧ b ≤ 1 := by
  obtain ⟨hi, hj⟩ := (pixelAt_eq_some_iff_round.1 hp).1
  obtain ⟨a, b, hclip, hends⟩ := Exact.exists_clip_of_mem ht
    (mem_marginBox_of_nearest hi hj (nearest_of_pixelAt hp) (thickness width height penWidth))
  refine ⟨a, b, ?_, hends⟩
  rw [lineShape_eq, hclip]
  rfl

/-- A line with an end on a pixel is drawn from or to that pixel. -/
theorem exists_lineShape_of_end {s : Segment K} {p : ℕ × ℕ}
    (hp : pixelAt width height s.x0 s.y0 = .ok (some p) ∨
      pixelAt width height s.x1 s.y1 = .ok (some p)) (penWidth : ℤ) :
    ∃ q r, lineShape width height s penWidth =
      .ok (some (.line q r (thickness width height penWidth))) ∧ (q = .ofPixel p ∨ r = .ofPixel p) := by
  rcases hp with hp | hp
  · have hstart : pixelAt width height (s.pointOf 0).1 (s.pointOf 0).2 = .ok (some p) := by
      rwa [s.pointOf_zero]
    obtain ⟨a, b, hshape, ⟨ha, ha0⟩, -⟩ :=
      exists_lineShape_of_pixelAt ⟨le_rfl, zero_le_one⟩ hstart penWidth
    obtain rfl : a = 0 := le_antisymm ha0 ha
    exact ⟨_, _, hshape, .inl (nearest_of_pixelAt hstart)⟩
  · have hstop : pixelAt width height (s.pointOf 1).1 (s.pointOf 1).2 = .ok (some p) := by
      rwa [s.pointOf_one]
    obtain ⟨a, b, hshape, -, hb1, hb⟩ :=
      exists_lineShape_of_pixelAt ⟨zero_le_one, le_rfl⟩ hstop penWidth
    obtain rfl : b = 1 := le_antisymm hb hb1
    exact ⟨_, _, hshape, .inr (nearest_of_pixelAt hstop)⟩

/-- The middle of the pixel that a dot is drawn around is reached by every dot. -/
theorem inReach_of_pixelAt {x y : K} {p : ℕ × ℕ}
    (hp : pixelAt width height x y = .ok (some p)) (r : ℕ) :
    InReach r width x ∧ InReach r height y := by
  obtain ⟨hinside, -, -⟩ := pixelAt_eq_some_iff_round.1 hp
  refine inReach_of_isNear ⟨p.1, p.2, hinside, ?_⟩
  rw [nearest_of_pixelAt (z := (x, y)) hp]
  simp [distSq, Point.middle, Point.ofPixel]

/-- A dot on a pixel is drawn around that pixel. -/
theorem dotShape_of_pixelAt {x y : K} {p : ℕ × ℕ}
    (hp : pixelAt width height x y = .ok (some p)) (diameter : K) :
    dotShape width height x y diameter =
      .ok (some (.disk (.ofPixel p) (cappedRadius width height diameter))) := by
  have hnearest : Point.nearest (x, y) = .ofPixel p := nearest_of_pixelAt (z := (x, y)) hp
  have hreach := inReach_of_pixelAt hp (cappedRadius width height diameter)
  rw [dotShape_eq]
  simp only [hreach, hnearest, and_self, if_true]

/-! ### Capped sizes -/

theorem thickness_of_le {penWidth : ℤ} (hw : 1 ≤ width) (h : 2 * (width + height) ≤ penWidth) :
    thickness width height penWidth = 2 * (width + height) := by
  have hpositive : (1 : ℤ) ≤ width := by exact_mod_cast hw
  unfold thickness sizeLimit
  omega

/-- On a canvas on which the painter takes every thickness, it can be given every line. -/
theorem spans_of_lineShape_small (hsize : width + height ≤ 16383) {s : Segment K} {penWidth : ℤ}
    {p q : Point}
    (h : lineShape width height s penWidth =
      .ok (some (.line p q (thickness width height penWidth)))) :
    (Shape.line p q (thickness width height penWidth)).spans width height =
      .ok (Raster.line width height p q (thickness width height penWidth)) := by
  have hthin : thickness width height penWidth ≤ Raster.maxThickness :=
    (thickness_le_maxThickness_iff _ _ _).2 (.inl hsize)
  have hlimit : Raster.maxThickness = 32767 := rfl
  obtain ⟨_, _, hline, hspans⟩ := spans_of_lineShape h hthin (by omega) (by omega)
  obtain ⟨rfl, rfl, -⟩ := Shape.line.inj hline
  exact hspans

omit [Trig K] in
/-- On a canvas on which the painter takes every thickness, it can be given every dot. -/
theorem spans_of_inReach_small (hsize : width + height ≤ 16383) {x y diameter : K}
    (hreach : InReach (cappedRadius width height diameter) width x ∧
      InReach (cappedRadius width height diameter) height y) :
    (Shape.disk (.nearest (x, y)) (cappedRadius width height diameter)).spans width height =
      .ok (Raster.disk (.nearest (x, y)) (cappedRadius width height diameter)) :=
  spans_disk (takesDisk_of_bounds (by omega) (cappedRadius_le _ _ _) (round_of_inReach hreach.1)
    (round_of_inReach hreach.2))

/-- **A capped size covers the canvas.**  On a canvas on which the painter takes every thickness, a
line whose width is capped and that starts or ends on the canvas leaves it in the colour of the line
altogether, and so does a dot whose radius is capped and whose centre is on the canvas. -/
theorem capped_covers {c : Canvas} (hc : c.width + c.height ≤ 16383) {colour : Colour}
    (hcolour : colour.FitsBytes) {p : ℕ × ℕ} :
    (∀ (s : Segment K) (penWidth : ℤ), 2 * (c.width + c.height) ≤ penWidth →
      (pixelAt c.width c.height s.x0 s.y0 = .ok (some p) ∨
        pixelAt c.width c.height s.x1 s.y1 = .ok (some p)) →
      ∃ c', drawLine s (.ok colour) penWidth c = .ok () c' ∧
        ∀ i j, i < c.width → j < c.height → c'.Shows i j colour) ∧
    ∀ x y diameter : K, 4 * (c.width + c.height) ≤ diameter →
      pixelAt c.width c.height x y = .ok (some p) →
      ∃ c', dot x y diameter (.ok colour) c = .ok () c' ∧
        ∀ i j, i < c.width → j < c.height → c'.Shows i j colour := by
  have hw : c.width ≤ 2 ^ 47 := by omega
  have hh : c.height ≤ 2 ^ 47 := by omega
  constructor
  · intro s penWidth hpen hp
    obtain ⟨q, r, hshape, hend⟩ := exists_lineShape_of_end hp penWidth
    have hinside : p.1 < c.width ∧ p.2 < c.height := by
      rcases hp with hp | hp
      · exact (pixelAt_eq_some_iff_round.1 hp).1
      · exact (pixelAt_eq_some_iff_round.1 hp).1
    have hspans := spans_of_lineShape_small hc hshape
    rw [thickness_of_le (by omega) hpen] at hshape hspans
    refine ⟨_, drawLine_of_spans hcolour hshape hspans, fun i j hi hj => ?_⟩
    refine shows_mark hw hh hi hj hcolour (covers_line_of_disk (by omega) ?_)
    rcases hend with rfl | rfl
    · exact .inl (covers_disk_of_pixel hinside le_rfl hi hj)
    · exact .inr (covers_disk_of_pixel hinside le_rfl hi hj)
  · intro x y diameter hd hp
    have hshape := dotShape_of_pixelAt hp diameter
    have hspans := spans_of_inReach_small hc
      (inReach_of_pixelAt hp (cappedRadius c.width c.height diameter))
    rw [nearest_of_pixelAt (z := (x, y)) hp] at hspans
    rw [cappedRadius_of_le hd] at hshape hspans
    refine ⟨_, dot_of_spans hcolour hshape hspans, fun i j hi hj => ?_⟩
    exact shows_mark hw hh hi hj hcolour
      (covers_disk_of_pixel (pixelAt_eq_some_iff_round.1 hp).1 (by omega) hi hj)

/-- A line from a pixel of a small canvas to far away, and a dot on the pixel. -/
theorem capped_covers_small :
    (∃ c', drawLine (⟨1, 0, 5000, 300⟩ : Segment ℝ) (.ok .black) 6 smallCanvas = .ok () c' ∧
      ∀ i j, i < 2 → j < 1 → c'.Shows i j .black) ∧
    ∃ c', dot (1 : ℝ) 0 12 (.ok .black) smallCanvas = .ok () c' ∧
      ∀ i j, i < 2 → j < 1 → c'.Shows i j .black := by
  have hx : roundHalfEven (1 : ℝ) = 1 := roundHalfEven_of_eq (by norm_num)
  have hy : roundHalfEven (0 : ℝ) = 0 := roundHalfEven_of_eq (by norm_num)
  have hp : pixelAt smallCanvas.width smallCanvas.height (1 : ℝ) 0 = .ok (some (1, 0)) :=
    pixelAt_eq_some_iff_round.2 ⟨by decide, hx, hy⟩
  have hd : (4 : ℝ) * (smallCanvas.width + smallCanvas.height) ≤ 12 := by
    have hwidth : smallCanvas.width = 2 := rfl
    have hheight : smallCanvas.height = 1 := rfl
    norm_num [hwidth, hheight]
  have hblack : Colour.black.FitsBytes := by decide
  obtain ⟨hline, hdot⟩ :=
    capped_covers (K := ℝ) (c := smallCanvas) (p := (1, 0)) (by decide) hblack
  exact ⟨hline _ 6 (by decide) (.inl hp), hdot _ _ _ hd hp⟩

end Canvas

end TurtleCanvas
