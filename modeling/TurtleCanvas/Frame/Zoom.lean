import TurtleCanvas.Picture.Image
import TurtleCanvas.Scalar

/-!
# Zooming a picture

A picture is brought to another size by copying, for each new pixel, the old pixel under its middle.

* `Zoom.size` : the scaled size.
* `Zoom.sources` : the old places of the new pixels along one axis.
* `Picture.resample` : the picture in the new size.
* `Picture.zoom` : the picture scaled.
-/

namespace TurtleCanvas

open Scalar

variable {α : Type} [Scalar α]

namespace Zoom

/-- A size scaled and cut to a whole number, at least 1. -/
def size (n : Nat) (scale : α) : Except Fault Nat := do
  return (max 1 (← trunc (← mul (int n) scale))).toNat

/-- The whole parts of `count` values from `position` on, a step apart. -/
def walk (step : α) : Nat → α → Except Fault (List Nat)
  | 0, _ => pure []
  | count + 1, position => do
    let i ← trunc position
    return i.toNat :: (← walk step count (← add position step))

/-- The old places of `count` new pixels along an axis of `n` old ones: the first middle is half a
step in, and each further one a step on. -/
def sources (α : Type) [Scalar α] (n count : Nat) : Except Fault (List Nat) := do
  let step : α ← div (int n) (int count)
  walk step count (← div step (real 2))

end Zoom

namespace Picture

/-- The pixel in column `x` of row `y`, black beyond the picture. -/
def sample (p : Picture) (x y : Nat) : Pixel :=
  if x < p.width ∧ y < p.height then p.pixel x y else ⟨0, 0, 0⟩

/-- The picture made of the pixels in the given columns of the given rows. -/
def resample (p : Picture) (columns rows : Array Nat) : Picture where
  width := columns.size
  height := rows.size
  cells := Array.ofFn fun k : Fin (rows.size * columns.size) =>
    p.sample (columns.getD (k % columns.size) 0) (rows.getD (k / columns.size) 0)
  size_cells := Array.size_ofFn

/-- The picture scaled; a scale of one leaves it as it is. -/
def zoom [Memory] (p : Picture) (scale : α) : Except Fault Picture := do
  if isOne scale then return p
  else
    let width ← Zoom.size p.width scale
    let height ← Zoom.size p.height scale
    Image.checkSide width
    Image.checkSide height
    Image.checkRoom width height
    let columns ← Zoom.sources α p.width width
    let rows ← Zoom.sources α p.height height
    return p.resample columns.toArray rows.toArray

end Picture

end TurtleCanvas
