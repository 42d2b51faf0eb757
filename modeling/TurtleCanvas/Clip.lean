import TurtleCanvas.Scalar

/-!
# Clipping a segment to a rectangle

A segment is followed by a parameter that runs from 0 at its first end to 1 at its second.  Each
side of the rectangle is an inequality `p * t ≤ q` for the parameter, which cuts a piece off the
interval of parameters or leaves nothing of it.

* `Segment`, `Box` : a segment and a rectangle with sides along the axes.
* `Segment.narrow` : the parameters that satisfy a list of inequalities.
* `Segment.clip` : the part of a segment inside a rectangle.
-/

namespace TurtleCanvas

/-- A segment by its two ends. -/
structure Segment (α : Type) where
  x0 : α
  y0 : α
  x1 : α
  y1 : α
  deriving Repr, DecidableEq

/-- A rectangle with sides along the axes, sides included. -/
structure Box (α : Type) where
  xmin : α
  ymin : α
  xmax : α
  ymax : α
  deriving Repr, DecidableEq

namespace Segment

open Scalar

variable {α : Type} [Scalar α]

/-- The ends of the segment are finite. -/
def isFinite (s : Segment α) : Except Fault Bool := allFinite [s.x0, s.y0, s.x1, s.y1]

/-- The inequalities `p * t ≤ q`, as pairs `(p, q)`, that say that the point at parameter `t` lies
on the inner side of the left, right, upper and lower side. -/
def bounds (s : Segment α) (box : Box α) (dx dy : α) : Except Fault (List (α × α)) := do
  let left := (← neg dx, ← sub s.x0 box.xmin)
  let right := (dx, ← sub box.xmax s.x0)
  let upper := (← neg dy, ← sub s.y0 box.ymin)
  let lower := (dy, ← sub box.ymax s.y0)
  return [left, right, upper, lower]

/-- The interval of parameters that is left of `t0` to `t1` by a list of inequalities `p * t ≤ q`,
if any is left. -/
def narrow : List (α × α) → α → α → Except Fault (Option (α × α))
  | [], t0, t1 => pure (some (t0, t1))
  | (p, q) :: rest, t0, t1 => do
    if isZero p then
      if ← lt q (int 0) then pure none else narrow rest t0 t1
    else
      let t ← div q p
      if ← lt p (int 0) then
        if ← lt t1 t then pure none else narrow rest (← larger t0 t) t1
      else
        if ← lt t t0 then pure none else narrow rest t0 (← smaller t1 t)

/-- The point of the segment at parameter `t`. -/
def pointAt (s : Segment α) (dx dy t : α) : Except Fault (α × α) := do
  return (← add s.x0 (← mul t dx), ← add s.y0 (← mul t dy))

/-- The part of the segment inside the rectangle, in the segment's direction; nothing when no part
of it is inside, or when an end is not finite. -/
def clip (s : Segment α) (box : Box α) : Except Fault (Option (Segment α)) := do
  if ← s.isFinite then
    let dx ← sub s.x1 s.x0
    let dy ← sub s.y1 s.y0
    match ← narrow (← s.bounds box dx dy) (real 0) (real 1) with
    | none => pure none
    | some (t0, t1) =>
      let p ← s.pointAt dx dy t0
      let q ← s.pointAt dx dy t1
      pure (some ⟨p.1, p.2, q.1, q.2⟩)
  else pure none

end Segment

end TurtleCanvas
