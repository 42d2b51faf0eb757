import TurtleCanvas.Platform
import TurtleCanvas.Proofs.Canvas.Margin
import TurtleCanvas.Proofs.Canvas.Reach

/-!
# Capped sizes

Lines are drawn no thicker, and dots no greater in radius, than twice the sum of the sides of the
canvas.  Two things are expected of the cap: that the painter takes what is left, and that nothing is
lost by it.  It keeps the first on canvases that are not too large, and the second for lines and dots
that can be seen in their capped size.

* `Canvas.thickness_le_maxThickness_iff` says which thicknesses the painter takes, and
  `Canvas.drawLine_thickness` that a line is drawn when it does and refused, without a change, when
  it does not;
* `Canvas.thickness_tooThick` is a line that is refused;
* `Canvas.ReturnsEarly` says that a call has nothing to paint, and `Canvas.dotShape_eq` and
  `Canvas.lineShape_eq_none_iff` when that is so;
* `Canvas.not_returnsEarly_of_isNear` says that what can be seen in its capped size is painted;
* `Canvas.hidden_by_cap` is a line and a dot that can be seen in the size they were given only.
-/

namespace TurtleCanvas

namespace Canvas

/-! ### The painter's limit -/

theorem one_le_thickness {width height : ℕ} (hw : 0 < width) (penWidth : ℤ) :
    1 ≤ thickness width height penWidth := by
  unfold thickness sizeLimit
  omega

/-- The painter takes every thickness on a canvas that is not too large, and on any other one those
of pens that are not too wide. -/
theorem thickness_le_maxThickness_iff (width height : ℕ) (penWidth : ℤ) :
    thickness width height penWidth ≤ Raster.maxThickness ↔
      width + height ≤ 16383 ∨ penWidth ≤ Raster.maxThickness := by
  unfold thickness sizeLimit Raster.maxThickness
  omega

section

variable {α : Type} [Scalar α]

/-- Whatever a segment is drawn as is a line of the thickness. -/
theorem exists_line_of_lineShape {width height : ℕ} {s : Segment α} {penWidth : ℤ} {shape : Shape}
    (h : lineShape width height s penWidth = .ok (some shape)) :
    ∃ p q, shape = .line p q (thickness width height penWidth) := by
  obtain ⟨box, -, h⟩ := Except.bind_eq_ok_iff.1 h
  obtain ⟨_ | kept, -, h⟩ := Except.bind_eq_ok_iff.1 h
  · exact nomatch h
  obtain ⟨i0, -, h⟩ := Except.bind_eq_ok_iff.1 h
  obtain ⟨j0, -, h⟩ := Except.bind_eq_ok_iff.1 h
  obtain ⟨i1, -, h⟩ := Except.bind_eq_ok_iff.1 h
  obtain ⟨j1, -, h⟩ := Except.bind_eq_ok_iff.1 h
  exact ⟨⟨i0, j0⟩, ⟨i1, j1⟩, (Option.some.inj (Except.ok.inj h)).symm⟩

/-- A line that the painter does not take leaves the canvas as it is. -/
theorem drawLine_of_tooThick {c : Canvas} {s : Segment α} {penWidth : ℤ} {shape : Shape}
    (hshape : lineShape c.width c.height s penWidth = .ok (some shape))
    (hthick : Raster.maxThickness < thickness c.width c.height penWidth) (colour : Colour) :
    drawLine s (.ok colour) penWidth c = .error .strokeTooThick c := by
  obtain ⟨p, q, rfl⟩ := exists_line_of_lineShape hshape
  have hspans : (Shape.line p q (thickness c.width c.height penWidth)).spans c.width c.height =
      .error .strokeTooThick := if_pos hthick
  have hplan : plan c.width c.height (lineShape c.width c.height s penWidth) (.ok colour) =
      .error .strokeTooThick := by
    simp only [plan, hshape, hspans, Shape.takes, Except.ok_bind, if_true]
    rfl
  rw [drawLine, hplan, enact]

/-- **How thick lines are drawn.**  On every canvas that can be made, and for a pen of any width, the
thickness is at least one.  The painter takes it when the sides of the canvas add up to no more than
16383, or when the pen is no wider than the painter allows.  A line that is not clipped away is then
painted and counted, if its ends are points that the painter takes as well, and it is refused without
a change when the painter does not take its thickness. -/
theorem drawLine_thickness {c : Canvas} (hc : c.IsReached) (penWidth : ℤ) :
    let T := thickness c.width c.height penWidth
    1 ≤ T ∧
      (T ≤ Raster.maxThickness ↔
        c.width + c.height ≤ 16383 ∨ penWidth ≤ Raster.maxThickness) ∧
      ∀ {α : Type} [Scalar α] {s : Segment α} {p q : Point} {colour : Colour},
        lineShape c.width c.height s penWidth = .ok (some (.line p q T)) → colour.FitsBytes →
        (T ≤ Raster.maxThickness → Raster.takesPoint c.width c.height p = true →
          Raster.takesPoint c.width c.height q = true →
          ∃ c', drawLine s (.ok colour) penWidth c = .ok () c' ∧
            c'.generation = c.generation + 1) ∧
        (Raster.maxThickness < T →
          drawLine s (.ok colour) penWidth c = .error .strokeTooThick c) := by
  intro T
  refine ⟨one_le_thickness hc.size_pos.1 penWidth, thickness_le_maxThickness_iff _ _ penWidth, ?_⟩
  intro α _ s p q colour hshape hcolour
  refine ⟨?_, fun hthick => drawLine_of_tooThick hshape hthick colour⟩
  intro hthin hp hq
  exact ⟨_, drawLine_of_spans hcolour hshape (spans_line hthin hp hq), rfl⟩

end

/-- A line two pixels wide on a canvas of two pixels is drawn. -/
theorem drawLine_thickness_small :
    let s : Segment Argument := ⟨.int 0, .int 0, .int 1, .int 0⟩
    lineShape 2 1 s 2 = .ok (some (.line ⟨0, 0⟩ ⟨1, 0⟩ 2)) ∧
      ∃ c', drawLine s (.ok .black) 2 smallCanvas = .ok () c' ∧ c'.generation = 1 := by
  intro s
  have hgives : Gives (lineShape 2 1 s 2) (· = some (.line ⟨0, 0⟩ ⟨1, 0⟩ 2)) := by decide +kernel
  obtain ⟨_, hshape, rfl⟩ := hgives
  obtain ⟨-, -, hdrawn⟩ := drawLine_thickness isReached_smallCanvas 2
  exact ⟨hshape, (hdrawn hshape (by decide)).1 (by decide) (by decide) (by decide)⟩

/-- A canvas one pixel too wide for the painter to take every thickness. -/
def wideCanvas : Canvas := ⟨.filled 16383 1 ⟨255, 255, 255⟩, ⟨255, 255, 255⟩, 0⟩

/-- On a canvas that can be made, a line of a pen that is wide enough is refused. -/
theorem thickness_tooThick :
    create (.int 16383) (.int 1) defaultBackground = .ok wideCanvas ∧
      thickness 16383 1 40000 = 32768 ∧
      drawLine (⟨.int 0, .int 0, .int 1, .int 0⟩ : Segment Argument) (.ok .black) 40000 wideCanvas =
        .error .strokeTooThick wideCanvas := by
  have hroom : checkRoom 16383 1 = .ok () :=
    (checkRoom_eq_ok_iff (by decide) (by decide)).2 (by decide)
  refine ⟨create_of_room (by decide) (by decide) hroom (by decide), by decide, ?_⟩
  have hgives : Gives (lineShape 16383 1 (⟨.int 0, .int 0, .int 1, .int 0⟩ : Segment Argument) 40000)
      (· = some (.line ⟨0, 0⟩ ⟨1, 0⟩ 32768)) := by decide +kernel
  obtain ⟨_, hshape, rfl⟩ := hgives
  have hthick : Raster.maxThickness < thickness 16383 1 40000 := by decide
  exact drawLine_of_tooThick (c := wideCanvas) hshape hthick .black

/-! ### What is not painted -/

/-- A call has nothing to paint: it returns without a change before it reads its colour. -/
def ReturnsEarly (call : Ink → Action Canvas Unit) (c : Canvas) : Prop := ∀ ink, call ink c = .ok () c

section

variable {α : Type} [Scalar α]

/-- What has a shape is painted only if the colour can be read. -/
theorem returnsEarly_enact_iff {c : Canvas} {shape? : Option Shape} :
    ReturnsEarly (fun ink => enact (plan c.width c.height (.ok shape?) ink)) c ↔ shape? = none := by
  cases shape? with
  | none => exact iff_of_true (fun _ => rfl) rfl
  | some shape =>
    refine iff_of_false (fun hearly => ?_) (Option.some_ne_none shape)
    have hread : enact (plan c.width c.height (.ok (some shape)) (.error .nanToInt)) c =
        .error .nanToInt c := rfl
    exact nomatch hread.symm.trans (hearly (.error .nanToInt))

theorem returnsEarly_drawLine_iff {c : Canvas} {s : Segment α} {penWidth : ℤ}
    {shape? : Option Shape} (h : lineShape c.width c.height s penWidth = .ok shape?) :
    ReturnsEarly (drawLine s · penWidth) c ↔ shape? = none := by
  rw [← returnsEarly_enact_iff (c := c)]
  simp only [ReturnsEarly, drawLine, h]

theorem returnsEarly_dot_iff {c : Canvas} {x y diameter : α} {shape? : Option Shape}
    (h : dotShape c.width c.height x y diameter = .ok shape?) :
    ReturnsEarly (dot x y diameter) c ↔ shape? = none := by
  rw [← returnsEarly_enact_iff (c := c)]
  simp only [ReturnsEarly, dot, h]

end

open scoped Exact

variable {K : Type} [Field K] [LinearOrder K] [FloorRing K]

/-- The radius that a dot of a diameter is drawn with. -/
def cappedRadius (width height : ℕ) (diameter : K) : ℕ :=
  min (max 0 (roundHalfEven (diameter / (2 : ℕ)))).toNat (sizeLimit width height)

theorem cappedRadius_eq (width height : ℕ) (diameter : K) : cappedRadius width height diameter =
    min (max 0 (roundHalfEven (diameter / 2))).toNat (sizeLimit width height) := by
  rw [cappedRadius, Nat.cast_ofNat]

/-- A coordinate is at most one more than a radius outside the range from 0 to a size. -/
def InReach (radius size : ℕ) (v : K) : Prop := -(radius : K) - 1 ≤ v ∧ v ≤ size + radius

instance (radius size : ℕ) (v : K) : Decidable (InReach radius size v) :=
  inferInstanceAs (Decidable (_ ∧ _))

variable [Trig K]

theorem nearRange_eq (radius size : ℕ) (v : K) :
    nearRange radius size v = .ok (decide (InReach radius size v)) := by
  have hlow : ((-(radius : ℤ) - 1 : ℤ) : K) = -(radius : K) - 1 := by push_cast; ring
  have hhigh : ((size + radius : ℤ) : K) = size + radius := by push_cast; ring
  simp only [nearRange, Scalar.le, Scalar.int, Except.ok_bind, hlow, hhigh, decide_eq_true_eq]
  by_cases h : -(radius : K) - 1 ≤ v
  · simp [InReach, h]
  · simp only [InReach, h, if_false, false_and, decide_false]
    rfl

/-- What a dot is drawn as. -/
theorem dotShape_eq (width height : ℕ) (x y diameter : K) :
    dotShape width height x y diameter =
      let r := cappedRadius width height diameter
      .ok (if InReach r width x ∧ InReach r height y then some (.disk (.nearest (x, y)) r)
        else none) := by
  have htwo : ((2 : ℤ) : K) ≠ 0 := by norm_num
  have hfinite : Scalar.allFinite [x, y, diameter] = .ok true := rfl
  have hhalf : Scalar.div diameter (Scalar.real 2) = .ok (diameter / 2) := by
    show Scalar.div diameter ((2 : ℤ) : K) = _
    rw [Exact.div_of_ne htwo, Int.cast_ofNat]
  have hradius : dotRadius width height diameter = .ok (cappedRadius width height diameter) := by
    rw [dotRadius, hhalf, cappedRadius_eq]
    rfl
  rw [dotShape, hfinite, Except.ok_bind, if_pos rfl, hradius, Except.ok_bind]
  simp only [nearRange_eq, Except.ok_bind, decide_eq_true_eq]
  by_cases hx : InReach (cappedRadius width height diameter) width x
  · by_cases hy : InReach (cappedRadius width height diameter) height y
    · simp only [hx, hy, and_self, if_true]
      rfl
    · simp only [hx, hy, and_false, if_true, if_false]
      rfl
  · simp only [hx, false_and, if_false]
    rfl

/-- A dot is passed over when its centre is out of its reach. -/
theorem returnsEarly_dot_iff_inReach (c : Canvas) (x y diameter : K) :
    ReturnsEarly (dot x y diameter) c ↔
      ¬ (InReach (cappedRadius c.width c.height diameter) c.width x ∧
        InReach (cappedRadius c.width c.height diameter) c.height y) := by
  rw [returnsEarly_dot_iff (dotShape_eq c.width c.height x y diameter)]
  simp only [ite_eq_right_iff, reduceCtorEq, imp_false]

variable [IsStrictOrderedRing K] {width height : ℕ}

/-- A line is drawn as nothing when no point of it is in the margin. -/
theorem lineShape_eq_none_iff {s : Segment K} {penWidth : ℤ} :
    lineShape width height s penWidth = .ok none ↔
      ∀ z ∈ s.points, z ∉ (marginBox width height (thickness width height penWidth) : Box K).points := by
  rw [lineShape_eq]
  rcases Exact.clip_spec s (marginBox width height (thickness width height penWidth)) with
    ⟨hclip, hempty⟩ | ⟨a, b, hclip, -, -, -, hpoints, -, -⟩
  · rw [hclip]
    refine iff_of_true rfl fun z hz hbox => ?_
    exact (hempty ▸ ⟨hz, hbox⟩ : z ∈ (∅ : Set (K × K)))
  · rw [hclip]
    have hstart : (s.between a b).start ∈ (s.between a b).points := left_mem_segment K _ _
    rw [hpoints] at hstart
    exact iff_of_false nofun fun h => h _ hstart.1 hstart.2

omit [FloorRing K] [Trig K] in
theorem IsNear.mono {r r' : K} {z : K × K} (h : IsNear width height r z) (hr : 0 ≤ r)
    (hle : r ≤ r') : IsNear width height r' z := by
  obtain ⟨i, j, hij, hdist⟩ := h
  exact ⟨i, j, hij, hdist.trans (pow_le_pow_left₀ hr hle 2)⟩

omit [Trig K] in
/-- A dot that reaches the middle of a pixel is in reach of the canvas: its centre moves by half a
pixel at most when it is rounded. -/
theorem inReach_of_isNear {x y : K} {r : ℕ}
    (h : IsNear width height (r : K) (Point.nearest (x, y)).middle) :
    InReach r width x ∧ InReach r height y := by
  obtain ⟨i, j, ⟨hi, hj⟩, hdist⟩ := h
  obtain ⟨hcolumn, hrow⟩ := abs_le_of_distSq_le r.cast_nonneg hdist
  have hreach : ∀ {v : K} {k size : ℕ}, k < size → |(roundHalfEven v : K) - k| ≤ r →
      InReach r size v := by
    intro v k size hk habs
    obtain ⟨hlow, hhigh⟩ := abs_le.1 habs
    obtain ⟨hbelow, habove⟩ := roundHalfEven_bounds v
    have hfirst : (0 : K) ≤ k := k.cast_nonneg
    have hlast : (k : K) + 1 ≤ size := by exact_mod_cast hk
    constructor <;> linarith
  exact ⟨hreach hi hcolumn, hreach hj hrow⟩

/-- A line is passed over when no point of it is in the margin. -/
theorem returnsEarly_drawLine_iff_margin (c : Canvas) (s : Segment K) (penWidth : ℤ) :
    ReturnsEarly (drawLine s · penWidth) c ↔ ∀ z ∈ s.points,
      z ∉ (marginBox c.width c.height (thickness c.width c.height penWidth) : Box K).points := by
  rw [← lineShape_eq_none_iff]
  obtain ⟨shape?, hshape, -⟩ := exists_lineShape c.width c.height s penWidth
  rw [returnsEarly_drawLine_iff hshape, hshape, Except.ok.injEq]

/-- **When a call has nothing to paint.**  In exact arithmetic a line is passed over when no point of
it is in the margin, and a dot when its centre is out of its reach.  Both are worked out from the
capped size, and so a line that comes near enough to a pixel to be seen in its capped width is not
passed over, nor is a dot that can be seen in its capped radius. -/
theorem not_returnsEarly_of_isNear (c : Canvas) :
    (∀ (s : Segment K) (penWidth : ℤ),
      (ReturnsEarly (drawLine s · penWidth) c ↔ ∀ z ∈ s.points,
        z ∉ (marginBox c.width c.height (thickness c.width c.height penWidth) : Box K).points) ∧
      (1 ≤ penWidth → ∀ z ∈ s.points,
        IsNear c.width c.height ((min penWidth (sizeLimit c.width c.height) : ℤ) / 2 : K) z →
        ¬ ReturnsEarly (drawLine s · penWidth) c)) ∧
    ∀ x y diameter : K,
      (ReturnsEarly (dot x y diameter) c ↔
        ¬ (InReach (cappedRadius c.width c.height diameter) c.width x ∧
          InReach (cappedRadius c.width c.height diameter) c.height y)) ∧
      (0 ≤ diameter → IsNear c.width c.height
        ((min (roundHalfEven (diameter / 2)) (sizeLimit c.width c.height) : ℤ) : K)
        (Point.nearest (x, y)).middle → ¬ ReturnsEarly (dot x y diameter) c) := by
  constructor
  · intro s penWidth
    have hearly := returnsEarly_drawLine_iff_margin c s penWidth
    refine ⟨hearly, fun hpen z hz hnear hreturns => hearly.1 hreturns z hz ?_⟩
    have hT : (min penWidth (sizeLimit c.width c.height) : ℤ) =
        (thickness c.width c.height penWidth : ℕ) := by
      unfold thickness
      omega
    rw [hT, Int.cast_natCast] at hnear
    exact mem_marginBox_of_isNear (hnear.mono (by positivity) (by linarith))
  · intro x y diameter
    have hearly := returnsEarly_dot_iff_inReach c x y diameter
    refine ⟨hearly, fun hd hnear hreturns => hearly.1 hreturns (inReach_of_isNear ?_)⟩
    have hround : -1 < roundHalfEven (diameter / 2) := by
      have hlow := (roundHalfEven_bounds (diameter / 2)).1
      have : ((-1 : ℤ) : K) < roundHalfEven (diameter / 2) := by push_cast; linarith
      exact_mod_cast this
    have hr : min (roundHalfEven (diameter / 2)) (sizeLimit c.width c.height) =
        (cappedRadius c.width c.height diameter : ℕ) := by
      rw [cappedRadius_eq]
      omega
    rwa [hr, Int.cast_natCast] at hnear

/-- A white canvas of ten by ten pixels. -/
def squareCanvas : Canvas := ⟨.filled 10 10 ⟨255, 255, 255⟩, ⟨255, 255, 255⟩, 0⟩

/-- A line that passes just above the canvas, and a dot just beside it, are not passed over. -/
theorem not_returnsEarly_beside :
    ((0, -1) ∈ (⟨-10, -1, 10, -1⟩ : Segment ℝ).points ∧
      ¬ ReturnsEarly (drawLine (⟨-10, -1, 10, -1⟩ : Segment ℝ) · 2) squareCanvas) ∧
    ¬ ReturnsEarly (dot (-3 : ℝ) 0 6) squareCanvas := by
  obtain ⟨hline, hdot⟩ := not_returnsEarly_of_isNear (K := ℝ) squareCanvas
  have hz : ((0, -1) : ℝ × ℝ) ∈ (⟨-10, -1, 10, -1⟩ : Segment ℝ).points :=
    ⟨1 / 2, 1 / 2, by norm_num, by norm_num, by norm_num, by
      ext <;> norm_num [Segment.start, Segment.stop]⟩
  have hlimit : sizeLimit squareCanvas.width squareCanvas.height = 40 := rfl
  refine ⟨⟨hz, (hline _ 2).2 (by decide) _ hz ⟨0, 0, by decide, ?_⟩⟩,
    (hdot _ _ _).2 (by norm_num) ⟨0, 0, by decide, ?_⟩⟩
  · norm_num [hlimit, distSq]
  · have hradius : roundHalfEven (6 / 2 : ℝ) = 3 := roundHalfEven_of_eq (by norm_num)
    have hx : roundHalfEven (-3 : ℝ) = -3 := roundHalfEven_of_eq (by norm_num)
    have hy : roundHalfEven (0 : ℝ) = 0 := roundHalfEven_of_eq (by norm_num)
    rw [hradius, hlimit]
    norm_num [distSq, Point.middle, Point.nearest, hx, hy]

/-- A line and a dot that are far away, but large enough to be seen from the canvas, are passed
over: capped, they could not be seen. -/
theorem hidden_by_cap :
    ((∃ z ∈ (⟨1000, 0, 1000, 9⟩ : Segment ℝ).points, IsNear 10 10 ((2100 : ℤ) / 2 : ℝ) z) ∧
      ReturnsEarly (drawLine (⟨1000, 0, 1000, 9⟩ : Segment ℝ) · 2100) squareCanvas) ∧
    IsNear 10 10 (roundHalfEven (2100 / 2 : ℝ) : ℝ) (Point.nearest ((1000, 5) : ℝ × ℝ)).middle ∧
      ReturnsEarly (dot (1000 : ℝ) 5 2100) squareCanvas := by
  have hradius : roundHalfEven (2100 / 2 : ℝ) = 1050 := roundHalfEven_of_eq (by norm_num)
  have hx : roundHalfEven (1000 : ℝ) = 1000 := roundHalfEven_of_eq (by norm_num)
  have hy : roundHalfEven (5 : ℝ) = 5 := roundHalfEven_of_eq (by norm_num)
  refine ⟨⟨⟨(1000, 0), left_mem_segment ℝ _ _, 9, 0, by decide, ?_⟩, ?_⟩, ⟨9, 5, by decide, ?_⟩, ?_⟩
  · norm_num [distSq]
  · rw [returnsEarly_drawLine_iff_margin]
    rintro z ⟨u, v, -, -, huv, rfl⟩ hbox
    have hT : thickness squareCanvas.width squareCanvas.height 2100 = 40 := by decide
    rw [Box.mem_points_iff, marginBox_eq, hT] at hbox
    have hright := hbox.1.2
    have hwidth : squareCanvas.width = 10 := rfl
    simp [Segment.start, Segment.stop, hwidth] at hright
    linarith
  · rw [hradius]
    norm_num [distSq, Point.middle, Point.nearest, hx, hy]
  · rw [returnsEarly_dot_iff_inReach]
    have hr : cappedRadius squareCanvas.width squareCanvas.height (2100 : ℝ) = 40 := by
      rw [cappedRadius_eq, hradius]
      decide
    rw [hr]
    rintro ⟨⟨-, hright⟩, -⟩
    have hwidth : squareCanvas.width = 10 := rfl
    norm_num [hwidth] at hright

end Canvas

end TurtleCanvas
