/-!
# Points and runs of pixels

Pixels are addressed by their column, growing to the right, and their row, growing downward.  What
a drawing rule paints is given as a list of runs, each in one row, so that the rule itself never
sees a picture: runs may reach over the edges of the picture that they are painted on.

* `Point` : a pixel, or a point in units of a fraction of a pixel.
* `Span` : a run of pixels in one row.
* `Span.Covers` : the pixels that a list of runs covers.
-/

namespace TurtleCanvas

/-- A point with whole coordinates. -/
structure Point where
  x : Int
  y : Int
  deriving Repr, DecidableEq, Inhabited

namespace Point

/-- The point moved by another one. -/
def add (p q : Point) : Point := ⟨p.x + q.x, p.y + q.y⟩

end Point

/-- The pixels of one row from a left to a right column, both included. -/
structure Span where
  row : Int
  left : Int
  right : Int
  deriving Repr, DecidableEq, Inhabited

namespace Span

/-- The run of one pixel. -/
def ofPoint (p : Point) : Span := ⟨p.y, p.x, p.x⟩

/-- The run holds the pixel in column `x` of row `y`. -/
def Holds (s : Span) (x y : Int) : Prop := s.row = y ∧ s.left ≤ x ∧ x ≤ s.right

instance (s : Span) (x y : Int) : Decidable (s.Holds x y) := by unfold Holds; infer_instance

/-- Some run of the list holds the pixel. -/
def Covers (spans : List Span) (x y : Int) : Prop := ∃ s ∈ spans, s.Holds x y

instance (spans : List Span) (x y : Int) : Decidable (Covers spans x y) := by
  unfold Covers; infer_instance

theorem holds_ofPoint (p : Point) (x y : Int) : (ofPoint p).Holds x y ↔ p.y = y ∧ p.x = x := by
  simp only [ofPoint, Holds]; omega

theorem not_covers_nil (x y : Int) : ¬ Covers [] x y := by simp [Covers]

theorem covers_cons (s : Span) (spans : List Span) (x y : Int) :
    Covers (s :: spans) x y ↔ s.Holds x y ∨ Covers spans x y := by simp [Covers]

theorem covers_append (a b : List Span) (x y : Int) :
    Covers (a ++ b) x y ↔ Covers a x y ∨ Covers b x y := by
  simp [Covers, or_and_right, exists_or]

end Span

end TurtleCanvas
