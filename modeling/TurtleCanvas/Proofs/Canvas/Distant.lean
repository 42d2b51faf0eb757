import TurtleCanvas.Proofs.Canvas.Bounded

/-!
# Lines between distant points

A line can be drawn between any points that are not farther away than `2 ^ 50`, since what clipping
leaves of it is next to the canvas.  Farther away nothing of the kind holds: a line between ends so
far apart that their difference is not a double cannot be drawn at all.

* `Canvas.drawLine_distant` says that a line between distant points is drawn, between points that fit
  32 bits;
* `Canvas.drawLine_tooFarApart` is a line that is not drawn.
-/

namespace TurtleCanvas

namespace Canvas

/-- **A line between distant points is drawn.**  On a canvas on which the painter takes every
thickness, let the ends of a line be numbers up to `2 ^ 50`, and its pen of any width.  Then clipping
ends, what it keeps of the line is at most a pixel outside the margin of the canvas, its ends are
moved to pixels that fit 32 bits, and drawing the line returns. -/
theorem drawLine_distant {c : Canvas} (hc : c.width + c.height ≤ 16383) {s : Segment Argument}
    (hs : ∀ v ∈ [s.x0, s.y0, s.x1, s.y1], v.LiesBetween (-2 ^ 50) (2 ^ 50)) {colour : Colour}
    (hcolour : colour.FitsBytes) (penWidth : ℤ) :
    let T := thickness c.width c.height penWidth
    ∃ box kept? shape?, paddedBox c.width c.height T = .ok box ∧
      Segment.HasSides box (marginBox c.width c.height T) ∧ s.clip box = .ok kept? ∧
      (∀ kept ∈ kept?, kept.StaysBeside (marginBox c.width c.height T)) ∧
      lineShape c.width c.height s penWidth = .ok shape? ∧
      (∀ shape ∈ shape?, ∃ p q, shape = .line p q T ∧ p.FitsWord ∧ q.FitsWord) ∧
      ∃ c', drawLine s (.ok colour) penWidth c = .ok () c' := by
  intro T
  have hwidths : c.TakesAllWidths := by
    unfold TakesAllWidths sizeLimit Raster.maxThickness
    omega
  obtain ⟨box, kept?, shape?, hbox, hsides, hkept, hbeside, hshape, hline⟩ :=
    exists_lineShape_of_near hwidths hs penWidth
  obtain ⟨c', hdraw, -⟩ := exists_drawLine_of_lineShape hwidths hcolour hshape hline
  exact ⟨box, kept?, shape?, hbox, hsides, hkept, hbeside, hshape, hline, c', hdraw⟩

/-- A line that comes from far to the left and goes far to the right of a small canvas. -/
theorem drawLine_distant_small :
    let s : Segment Argument := ⟨.int (-10 ^ 10), .int 0, .int (10 ^ 10), .int 0⟩
    (∀ v ∈ [s.x0, s.y0, s.x1, s.y1], v.LiesBetween (-2 ^ 50) (2 ^ 50)) ∧
      ∃ c', drawLine s (.ok .black) 3 smallCanvas = .ok () c' := by
  intro s
  have hlies : ∀ n : ℤ, n.natAbs ≤ 10 ^ 10 → (Argument.int n).LiesBetween (-2 ^ 50) (2 ^ 50) := by
    intro n hn
    have hlow : ((-2 ^ 50 : ℤ) : ℚ) ≤ n := by exact_mod_cast (by omega : -2 ^ 50 ≤ n)
    have hhigh : (n : ℚ) ≤ ((2 ^ 50 : ℤ) : ℚ) := by exact_mod_cast (by omega : n ≤ 2 ^ 50)
    push_cast at hlow hhigh
    exact ⟨n, Argument.hasValue_int (Binary64.representable_int (by omega)), hlow, hhigh⟩
  have hs : ∀ v ∈ [s.x0, s.y0, s.x1, s.y1], v.LiesBetween (-2 ^ 50) (2 ^ 50) := by
    simp only [s, List.forall_mem_cons, List.not_mem_nil, false_implies, implies_true, and_true]
    exact ⟨hlies _ (by decide), hlies _ (by decide), hlies _ (by decide), hlies _ (by decide)⟩
  obtain ⟨-, -, -, -, -, -, -, -, -, hdraw⟩ :=
    drawLine_distant (c := smallCanvas) (by decide) hs (by decide : Colour.black.FitsBytes) 3
  exact ⟨hs, hdraw⟩

/-- Two ends on both sides of a small canvas, so far apart that their difference is infinite. -/
def farApart : Segment Argument := ⟨.real (-1.7e308), .int 0, .real 1.7e308, .int 0⟩

/-- Between ends that are too far apart clipping gives no numbers, and these cannot be moved to
pixels. -/
theorem drawLine_tooFarApart :
    (∀ v ∈ [farApart.x0, farApart.y0, farApart.x1, farApart.y1], Scalar.isFinite v = .ok true) ∧
      (∃ kept, (paddedBox 2 1 1 >>= farApart.clip) = .ok (some kept) ∧
        Scalar.isFinite kept.x0 = .ok false) ∧
      drawLine farApart (.ok .black) 1 smallCanvas = .error .nanToInt smallCanvas := by
  have hfinite : ∀ v ∈ [farApart.x0, farApart.y0, farApart.x1, farApart.y1],
      Gives (Scalar.isFinite v) (· = true) := by decide +kernel
  have hclip : Gives (paddedBox 2 1 1 >>= farApart.clip) fun kept? =>
      ∃ kept ∈ kept?, Gives (Scalar.isFinite kept.x0) (· = false) := by decide +kernel
  have hrefused : (match lineShape 2 1 farApart 1 with
      | .error .nanToInt => true
      | _ => false) = true := by decide +kernel
  refine ⟨?_, ?_, ?_⟩
  · intro v hv
    obtain ⟨_, h, rfl⟩ := hfinite v hv
    exact h
  · obtain ⟨kept?, hkept?, kept, rfl, hx0⟩ := hclip
    obtain ⟨_, h, rfl⟩ := hx0
    exact ⟨kept, hkept?, h⟩
  · split at hrefused
    · next hshape =>
      have hsize : lineShape smallCanvas.width smallCanvas.height farApart 1 = .error .nanToInt :=
        hshape
      rw [drawLine, hsize]
      rfl
    · cases hrefused

end Canvas

end TurtleCanvas
