import TurtleCanvas.Scalar

/-!
# Headings

A heading is an angle in degrees from 0 up to, but not including, 360.

* `foldHeading` : the heading of an angle.
-/

namespace TurtleCanvas

open Scalar

variable {α : Type} [Scalar α]

/-- The angle moved by whole turns into the range from 0 to 360.  The remainder has the sign of the
angle, so a turn is added to a negative one; that sum may be rounded up to a full turn, which is the
heading 0. -/
def foldHeading (angle : α) : Except Fault α := do
  let r ← rem (← toReal angle) (real 360)
  let r ←
    if isZero r then pure (real 0)
    else if ← lt r (real 0) then add r (real 360)
    else pure r
  if ← le (real 360) r then pure (real 0) else pure r

end TurtleCanvas
