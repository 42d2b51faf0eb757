import TurtleCanvas.Proofs.Canvas.ThinLine
import TurtleCanvas.Proofs.Exact.Inside

/-!
# The margin around a canvas

A line is clipped to the rectangle of the canvas, grown by half the line's thickness and one pixel,
before its ends are moved to the nearest pixels.  That margin is wide enough on both counts: no part
of the line that could be seen is cut off, and an end that was moved cannot be seen, not even after
it is moved once more to the nearest pixel.

* `Canvas.IsNear` and `Canvas.IsFar` compare a point with the middles of all pixels of a canvas, and
  `Point.nearest` is the pixel nearest to a point;
* `Canvas.lineShape_eq` says what a line is drawn as, and `Canvas.generation_of_drawLine` that it is
  counted as painted if it is drawn at all;
* `Canvas.mem_marginBox_of_isNear` and `Canvas.mem_marginBox_of_nearest` say what is in the margin, and
  `Canvas.nearest_bounds` where pixels of the margin are;
* `Canvas.KeepsEnd` and `Canvas.KeepsLine` are what is asked of an end and of the line that is left,
  and `Canvas.drawLine_margin` says that clipping loses and adds nothing.
-/

namespace TurtleCanvas

section

variable {K : Type} [Field K]

/-- The middle of a pixel. -/
def Point.middle (p : Point) : K × K := (p.x, p.y)

variable [LinearOrder K]

/-- A point is at most a distance away from the middle of some pixel of a canvas. -/
def Canvas.IsNear (width height : ℕ) (r : K) (z : K × K) : Prop :=
  ∃ i j : ℕ, (i < width ∧ j < height) ∧ distSq z (i, j) ≤ r ^ 2

/-- A point is at least a distance away from the middle of every pixel of a canvas. -/
def Canvas.IsFar (width height : ℕ) (r : K) (z : K × K) : Prop :=
  ∀ i j : ℕ, i < width → j < height → r ^ 2 ≤ distSq z (i, j)

end

variable {K : Type} [Field K] [LinearOrder K] [FloorRing K]

/-- The pixel nearest to a point. -/
def Point.nearest (z : K × K) : Point := ⟨roundHalfEven z.1, roundHalfEven z.2⟩

/-- No pixel is nearer to a point than the nearest one. -/
theorem Point.distSq_nearest_le [IsStrictOrderedRing K] (z : K × K) (p : Point) :
    distSq (nearest z).middle z ≤ distSq p.middle z :=
  add_le_add (sq_le_sq.2 (abs_roundHalfEven_sub_le z.1 p.x))
    (sq_le_sq.2 (abs_roundHalfEven_sub_le z.2 p.y))

namespace Canvas

variable [Trig K]

/-! ### What is asked of the margin -/

/-- What is asked of an end `z` of a line of a thickness that is clipped to `kept` and then drawn
from or to the pixel `p`. -/
structure KeepsEnd (width height thickness : ℕ) (z kept : K × K) (p : Point) : Prop where
  /-- An end that clipping does not move is drawn at the pixel nearest to it. -/
  unmoved : kept = z → p = .nearest z ∧ ∀ m : Point, distSq p.middle z ≤ distSq m.middle z
  /-- An end that clipping moves is drawn out of sight, its round cap included. -/
  moved : kept ≠ z → IsFar width height (thickness / 2 + 1 / 2 : K) p.middle
  /-- The column is not far outside the canvas. -/
  column : -(thickness / 2 + 3 / 2) ≤ (p.x : K) ∧ (p.x : K) ≤ width - 1 + thickness / 2 + 3 / 2
  /-- The row is not far outside the canvas. -/
  row : -(thickness / 2 + 3 / 2) ≤ (p.y : K) ∧ (p.y : K) ≤ height - 1 + thickness / 2 + 3 / 2

/-- What is asked of a line of a thickness that is clipped to `kept` and then drawn from the pixel `p`
to the pixel `q`. -/
structure KeepsLine (width height thickness : ℕ) (s kept : Segment K) (p q : Point) : Prop where
  /-- What could be seen of the line is kept. -/
  visible : ∀ z ∈ s.points, IsNear width height (thickness / 2 + 1 : K) z → z ∈ kept.points
  start : KeepsEnd width height thickness s.start kept.start p
  stop : KeepsEnd width height thickness s.stop kept.stop q

/-! ### What a line is drawn as -/

open scoped Exact

/-- A line is drawn between the pixels nearest to the ends that clipping leaves. -/
theorem lineShape_eq (width height : ℕ) (s : Segment K) (penWidth : ℤ) :
    lineShape width height s penWidth =
      (s.clip (marginBox width height (thickness width height penWidth))).map
        (Option.map fun kept => .line (.nearest kept.start) (.nearest kept.stop)
          (thickness width height penWidth)) := by
  rw [lineShape, paddedBox_eq, Except.ok_bind]
  rcases s.clip (marginBox width height (thickness width height penWidth)) with e | _ | kept
  · rfl
  · rfl
  · rfl

section

variable {α : Type} [Scalar α]

theorem drawLine_of_lineShape_none {c : Canvas} {s : Segment α} {penWidth : ℤ}
    (h : lineShape c.width c.height s penWidth = .ok none) (ink : Ink) :
    drawLine s ink penWidth c = .ok () c := by
  rw [drawLine, h]
  rfl

/-- What has a shape is counted when painting it returns. -/
theorem generation_of_enact {c c' : Canvas} {shape : Shape} {ink : Ink}
    (h : enact (plan c.width c.height (.ok (some shape)) ink) c = .ok () c') :
    c'.generation = c.generation + 1 := by
  cases hplan : plan c.width c.height (.ok (some shape)) ink with
  | error e =>
    rw [hplan] at h
    cases h
  | ok planned =>
    cases planned with
    | none =>
      -- A plan for a shape has something to paint.
      rw [plan, Except.ok_bind] at hplan
      obtain ⟨colour, -, hplan⟩ := Except.bind_eq_ok_iff.1 hplan
      by_cases htakes : shape.takes colour = true
      · rw [if_pos htakes] at hplan
        obtain ⟨spans, -, hspans⟩ := Except.bind_eq_ok_iff.1 hplan
        cases hspans
      · rw [if_neg htakes] at hplan
        cases hplan
    | some planned =>
      obtain ⟨spans, colour⟩ := planned
      rw [hplan, enact] at h
      by_cases hcolour : canMakeOut colour = true
      · rw [if_pos hcolour] at h
        cases h
        rfl
      · rw [if_neg hcolour] at h
        cases h

/-- A line that is drawn at all is counted when drawing it returns. -/
theorem generation_of_drawLine {c c' : Canvas} {s : Segment α} {penWidth : ℤ} {shape : Shape}
    (h : lineShape c.width c.height s penWidth = .ok (some shape)) {ink : Ink}
    (hdraw : drawLine s ink penWidth c = .ok () c') : c'.generation = c.generation + 1 := by
  rw [drawLine, h] at hdraw
  exact generation_of_enact hdraw

end

/-! ### The margin -/

variable [IsStrictOrderedRing K] {width height T : ℕ}

omit [Trig K] [FloorRing K] in
/-- What is near enough to a pixel to be seen is in the margin. -/
theorem mem_marginBox_of_isNear {z : K × K} (h : IsNear width height (T / 2 + 1 : K) z) :
    z ∈ (marginBox width height T : Box K).points := by
  obtain ⟨i, j, ⟨hi, hj⟩, hdist⟩ := h
  obtain ⟨hcolumn, hrow⟩ := abs_le_of_distSq_le (by positivity) hdist
  have hcolumn := abs_le.1 hcolumn
  have hrow := abs_le.1 hrow
  have hfirst : (0 : K) ≤ i ∧ (0 : K) ≤ j := ⟨i.cast_nonneg, j.cast_nonneg⟩
  have hlast : (i : K) + 1 ≤ width ∧ (j : K) + 1 ≤ height := by
    constructor
    · exact_mod_cast hi
    · exact_mod_cast hj
  rw [Box.mem_points_iff, marginBox_eq]
  simp only at hcolumn hrow ⊢
  refine ⟨⟨?_, ?_⟩, ?_, ?_⟩
  · linarith [hfirst.1, hcolumn.1]
  · linarith [hlast.1, hcolumn.2]
  · linarith [hfirst.2, hrow.1]
  · linarith [hlast.2, hrow.2]

omit [Trig K] in
/-- A point on a pixel of the canvas is in the margin. -/
theorem mem_marginBox_of_nearest {z : K × K} {i j : ℕ} (hi : i < width) (hj : j < height)
    (h : Point.nearest z = .ofPixel (i, j)) (T : ℕ) :
    z ∈ (marginBox width height T : Box K).points := by
  obtain ⟨hx, hy⟩ := Point.mk.inj h
  obtain ⟨hleft, hright⟩ := bounds_of_round hx hi
  obtain ⟨hupper, hlower⟩ := bounds_of_round hy hj
  have hT : (0 : K) ≤ T := T.cast_nonneg
  rw [Box.mem_points_iff, marginBox_eq]
  refine ⟨⟨?_, ?_⟩, ?_, ?_⟩
  all_goals simp only; linarith

omit [Trig K] in
/-- The pixel nearest to a point in the margin is not far outside the canvas. -/
theorem nearest_bounds {z : K × K} (h : z ∈ (marginBox width height T : Box K).points) :
    (-(T + 3) ≤ 2 * (Point.nearest z).x ∧ 2 * (Point.nearest z).x ≤ 2 * width + T + 1) ∧
      -(T + 3) ≤ 2 * (Point.nearest z).y ∧ 2 * (Point.nearest z).y ≤ 2 * height + T + 1 := by
  rw [Box.mem_points_iff, marginBox_eq] at h
  exact ⟨round_bounds_of_margin h.1, round_bounds_of_margin h.2⟩

omit [Trig K] in
/-- A coordinate on the outer edge of the margin is out of sight after rounding: it is a pixel and
half the thickness outside, and moves by half a pixel at most. -/
theorem le_abs_of_edge {x : K} {i size : ℕ} (hi : i < size)
    (h : x = -(T / 2 + 1) ∨ x = size - 1 + (T / 2 + 1)) :
    (T / 2 + 1 / 2 : K) ≤ |(roundHalfEven x : K) - i| := by
  obtain ⟨hlow, hhigh⟩ := roundHalfEven_bounds x
  have hfirst : (0 : K) ≤ i := i.cast_nonneg
  have hlast : (i : K) + 1 ≤ size := by exact_mod_cast hi
  rcases h with rfl | rfl
  · exact le_abs.2 (.inr (by linarith))
  · exact le_abs.2 (.inl (by linarith))

omit [Trig K] in
theorem isFar_of_onSide {z : K × K} (h : (marginBox width height T : Box K).OnSide z) :
    IsFar width height (T / 2 + 1 / 2 : K) (Point.nearest z).middle := by
  intro i j hi hj
  have hpositive : (0 : K) ≤ T / 2 + 1 / 2 := by positivity
  rcases h with h | h | h | h
  · exact le_distSq_of_column hpositive (le_abs_of_edge hi (.inl h))
  · exact le_distSq_of_column hpositive (le_abs_of_edge hi (.inr h))
  · exact le_distSq_of_row hpositive (le_abs_of_edge hj (.inl h))
  · exact le_distSq_of_row hpositive (le_abs_of_edge hj (.inr h))

omit [Trig K] in
/-- An end that is kept in the margin, and that is moved only to its edge, is kept as it should. -/
theorem keepsEnd_of_mem {z kept : K × K} (hkept : kept ∈ (marginBox width height T : Box K).points)
    (hmoved : kept = z ∨ (marginBox width height T : Box K).OnSide kept) :
    KeepsEnd width height T z kept (.nearest kept) := by
  obtain ⟨hcolumn, hrow⟩ := Box.mem_points_iff.1 hkept
  obtain ⟨hleft, hright⟩ := roundHalfEven_bounds kept.1
  obtain ⟨hupper, hlower⟩ := roundHalfEven_bounds kept.2
  simp only [marginBox_eq] at hcolumn hrow
  refine ⟨?_, fun h => isFar_of_onSide (hmoved.resolve_left h), ⟨?_, ?_⟩, ?_, ?_⟩
  · rintro rfl
    exact ⟨rfl, Point.distSq_nearest_le kept⟩
  · show _ ≤ (roundHalfEven kept.1 : K)
    linarith [hcolumn.1]
  · show (roundHalfEven kept.1 : K) ≤ _
    linarith [hcolumn.2]
  · show _ ≤ (roundHalfEven kept.2 : K)
    linarith [hrow.1]
  · show (roundHalfEven kept.2 : K) ≤ _
    linarith [hrow.2]

/-- **Clipping before drawing loses and adds nothing.**  Either drawing a line returns at once, and
then no point of it is near enough to a pixel to be seen; or all of it that is as near as that is
kept, its ends are drawn at the pixels nearest to them unless they were moved and are out of sight
with their caps, and the line is counted when drawing it returns. -/
theorem drawLine_margin (c : Canvas) (s : Segment K) (ink : Ink) (penWidth : ℤ) :
    let T := thickness c.width c.height penWidth
    (drawLine s ink penWidth c = .ok () c ∧
      ∀ z ∈ s.points, ¬ IsNear c.width c.height (T / 2 + 1 : K) z) ∨
    ∃ kept p q, (paddedBox c.width c.height T >>= s.clip) = .ok (some kept) ∧
      lineShape c.width c.height s penWidth = .ok (some (.line p q T)) ∧
      (∀ c', drawLine s ink penWidth c = .ok () c' → c'.generation = c.generation + 1) ∧
      KeepsLine c.width c.height T s kept p q := by
  intro T
  have hshape := lineShape_eq c.width c.height s penWidth
  rcases Exact.clip_spec s (marginBox c.width c.height T) with
    ⟨hclip, hempty⟩ | ⟨a, b, hclip, -, -, -, hpoints, hfirst, hlast⟩
  · rw [hclip] at hshape
    refine .inl ⟨drawLine_of_lineShape_none hshape ink, fun z hz hnear => ?_⟩
    have hz : z ∈ s.points ∩ (marginBox c.width c.height T : Box K).points :=
      ⟨hz, mem_marginBox_of_isNear hnear⟩
    rw [hempty] at hz
    exact hz
  · rw [hclip] at hshape
    refine .inr ⟨s.between a b, _, _, ?_, hshape, fun c' => generation_of_drawLine hshape, ?_⟩
    · rw [paddedBox_eq, Except.ok_bind]
      exact hclip
    have hstart : (s.between a b).start ∈ (s.between a b).points := left_mem_segment K _ _
    have hstop : (s.between a b).stop ∈ (s.between a b).points := right_mem_segment K _ _
    rw [hpoints] at hstart hstop
    constructor
    case visible =>
      intro z hz hnear
      rw [hpoints]
      exact ⟨hz, mem_marginBox_of_isNear hnear⟩
    case start =>
      refine keepsEnd_of_mem hstart.2 (hfirst.imp_left ?_)
      rintro rfl
      exact s.pointOf_zero
    case stop =>
      refine keepsEnd_of_mem hstop.2 (hlast.imp_left ?_)
      rintro rfl
      exact s.pointOf_one

/-- A line two pixels thick that comes from the left is cut off outside a small canvas. -/
theorem drawLine_margin_small :
    let c : Canvas := ⟨.filled 3 2 ⟨255, 255, 255⟩, ⟨255, 255, 255⟩, 0⟩
    let s : Segment ℝ := ⟨-10, 0, 1, 0⟩
    ∃ kept p q, lineShape c.width c.height s 2 = .ok (some (.line p q 2)) ∧
      KeepsLine 3 2 2 s kept p q := by
  intro c s
  rcases drawLine_margin c s (.ok .black) 2 with ⟨-, hfar⟩ | ⟨kept, p, q, -, hshape, -, hkeeps⟩
  · -- The end of the line is the middle of a pixel.
    have hnear : IsNear 3 2 ((2 : ℕ) / 2 + 1 : ℝ) s.stop :=
      ⟨1, 0, by decide, by norm_num [distSq, Segment.stop, s]⟩
    exact absurd hnear (hfar s.stop (right_mem_segment ℝ _ _))
  · exact ⟨kept, p, q, hshape, hkeeps⟩

end Canvas

end TurtleCanvas
