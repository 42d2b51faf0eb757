import TurtleCanvas.Raster.Disk
import TurtleCanvas.Raster.Polygon

/-!
# Lines of any thickness

A line more than one pixel thick is a rectangle along the line with a disk at each end.

* `Raster.offset` : half the thickness, across the line.
* `Raster.thickLine` : a line at least two pixels thick.
* `Raster.line` : a line of any thickness.
* `Raster.maxThickness`, `Raster.takesNumber`, `Raster.takesPoint` : which thicknesses, numbers and
  points are taken.
-/

namespace TurtleCanvas

namespace Raster

open Binary64

/-- From the line to the corners of its rectangle, in units, for a line of nonzero length: half the
thickness, half a pixel more for an odd one, across the direction of the line. -/
def offset (p q : Point) (thickness : Nat) : Point :=
  let dx := p.x - q.x
  let dy := q.y - p.y
  let length := Dyadic.sqrt (dx.natAbs * dx.natAbs + dy.natAbs * dy.natAbs)
  let halfWidth := thickness * 32768 + (if thickness % 2 = 1 then 32768 else 0)
  let ratio := (Dyadic.ofNat halfWidth).div length
  let along (d : Int) : Int :=
    withSign (decide (d < 0)) ((Dyadic.ofNat d.natAbs).mul ratio).round
  ⟨along dy, along dx⟩

/-- The corners of the rectangle along a line, at an offset to both sides of its ends. -/
def rectangle (p q d : Point) : Corners :=
  let px := p.x * unit
  let py := p.y * unit
  let qx := q.x * unit
  let qy := q.y * unit
  fun
    | 0 => ⟨px + d.x, py + d.y⟩
    | 1 => ⟨px - d.x, py - d.y⟩
    | 2 => ⟨qx - d.x, qy - d.y⟩
    | 3 => ⟨qx + d.x, qy + d.y⟩

/-- A line at least two pixels thick, with round ends. -/
def thickLine (width height : Nat) (p q : Point) (thickness : Nat) : List Span :=
  let radius : Int := (thickness * 32768 + 32768) / 65536
  (if p = q then [] else quadrangle width height (rectangle p q (offset p q thickness))) ++
    disk p radius ++ disk q radius

/-- A line of any thickness; one of no thickness is drawn one pixel thick. -/
def line (width height : Nat) (p q : Point) (thickness : Nat) : List Span :=
  if thickness ≤ 1 then thinLine width height p q else thickLine width height p q thickness

/-- The greatest thickness of a line. -/
def maxThickness : Nat := 32767

/-- A whole number that the painter can be given. -/
def takesNumber (v : Int) : Bool := -2 ^ 31 ≤ v && v < 2 ^ 31

/-- A coordinate that the painter can be given, along a side of the canvas that it can count. -/
def takesCoordinate (size : Nat) (v : Int) : Bool := takesNumber size && takesNumber v

/-- A point that a line can be drawn from or to, and a disk around. -/
def takesPoint (width height : Nat) (p : Point) : Bool :=
  takesCoordinate width p.x && takesCoordinate height p.y

end Raster

end TurtleCanvas
