import TurtleCanvas.Turtle.Basic

/-!
# Surfaces without pixels

* `Recorder` : a surface that keeps what it was asked to draw.
* `NoSurface` : the lack of a surface, on which all drawing fails.
-/

namespace TurtleCanvas

/-- Something that a surface was asked to draw. -/
inductive Drawn (α : Type) where
  | line (s : Segment α) (colour : Colour) (width : Nat)
  | dot (x y diameter : α) (colour : Colour)
  deriving Repr, DecidableEq

/-- A surface that keeps what it was asked to draw, the last first. -/
structure Recorder (α : Type) where
  drawn : List (Drawn α)

/-- A recorder keeps coordinates as reals. -/
instance {α : Type} [Scalar α] : Surface α (Recorder α) where
  line s colour width := fun r =>
    match (do return Segment.mk (← Scalar.toReal s.x0) (← Scalar.toReal s.y0)
                (← Scalar.toReal s.x1) (← Scalar.toReal s.y1)) with
    | .ok s => .ok () ⟨.line s colour width :: r.drawn⟩
    | .error e => .error e r
  dot x y diameter colour := fun r =>
    match (do return (← Scalar.toReal x, ← Scalar.toReal y, ← Scalar.toReal diameter)) with
    | .ok (x, y, diameter) => .ok () ⟨.dot x y diameter colour :: r.drawn⟩
    | .error e => .error e r

/-- The lack of a surface. -/
structure NoSurface (α : Type) where

/-- Nothing can be drawn without a surface. -/
instance {α : Type} : Surface α (NoSurface α) where
  line _ _ _ := fun r => .error .lacksOperation r
  dot _ _ _ _ := fun r => .error .lacksOperation r

end TurtleCanvas
