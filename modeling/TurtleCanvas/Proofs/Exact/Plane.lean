import Mathlib.Algebra.Order.Field.Basic
import Mathlib.Algebra.Order.Ring.Abs
import TurtleCanvas.Clip

/-!
# Points of the plane

A field need not have square roots, so that distances are compared by their squares.

* `Segment.start` and `Segment.stop` are the ends of a segment as points;
* `distSq` is the square of the distance of two points, and `Segment.HasLength` says how long a
  segment is.
-/

namespace TurtleCanvas

variable {K : Type} [Field K]

/-- The square of the distance of two points. -/
def distSq (z u : K × K) : K := (z.1 - u.1) ^ 2 + (z.2 - u.2) ^ 2

namespace Segment

/-- The first end. -/
def start (s : Segment K) : K × K := (s.x0, s.y0)

/-- The second end. -/
def stop (s : Segment K) : K × K := (s.x1, s.y1)

/-- The ends of a segment are a length apart. -/
def HasLength [LE K] (s : Segment K) (l : K) : Prop := 0 ≤ l ∧ distSq s.start s.stop = l ^ 2

end Segment

variable [LinearOrder K] [IsStrictOrderedRing K]

/-- Points that are far apart in their columns are far apart. -/
theorem le_distSq_of_column {z u : K × K} {r : K} (hr : 0 ≤ r) (h : r ≤ |z.1 - u.1|) :
    r ^ 2 ≤ distSq z u := by
  have hcolumn : r ^ 2 ≤ (z.1 - u.1) ^ 2 := by
    rw [← sq_abs (z.1 - u.1)]
    exact pow_le_pow_left₀ hr h 2
  exact hcolumn.trans (le_add_of_nonneg_right (sq_nonneg _))

/-- Points that are far apart in their rows are far apart. -/
theorem le_distSq_of_row {z u : K × K} {r : K} (hr : 0 ≤ r) (h : r ≤ |z.2 - u.2|) :
    r ^ 2 ≤ distSq z u := by
  have hrow : r ^ 2 ≤ (z.2 - u.2) ^ 2 := by
    rw [← sq_abs (z.2 - u.2)]
    exact pow_le_pow_left₀ hr h 2
  exact hrow.trans (le_add_of_nonneg_left (sq_nonneg _))

/-- Points that are near to each other are so in their columns and in their rows. -/
theorem abs_le_of_distSq_le {z u : K × K} {r : K} (hr : 0 ≤ r) (h : distSq z u ≤ r ^ 2) :
    |z.1 - u.1| ≤ r ∧ |z.2 - u.2| ≤ r := by
  constructor
  · exact abs_le_of_sq_le_sq ((le_add_of_nonneg_right (sq_nonneg _)).trans h) hr
  · exact abs_le_of_sq_le_sq ((le_add_of_nonneg_left (sq_nonneg _)).trans h) hr

end TurtleCanvas
