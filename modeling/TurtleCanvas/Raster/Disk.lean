import TurtleCanvas.Raster.Span

/-!
# Filled disks

A disk is filled by runs that are found by stepping along an eighth of its edge.

* `Raster.diskRows` : the stepping.
* `Raster.disk` : the runs of a disk.
-/

namespace TurtleCanvas

namespace Raster

/-- The four runs around the centre that belong to one point of the edge. -/
def diskBand (c : Point) (dx dy : Int) : List Span :=
  [⟨c.y - dy, c.x - dx, c.x + dx⟩, ⟨c.y + dy, c.x - dx, c.x + dx⟩,
    ⟨c.y - dx, c.x - dy, c.x + dy⟩, ⟨c.y + dx, c.x - dy, c.x + dy⟩]

/-- The runs for the points of the edge from `(dx, dy)` on, down to the diagonal.  The error grows
by the next odd number `plus` at each step; when it gets positive the edge moves inward and the
error falls by the odd number `minus`. -/
def diskRows (c : Point) (dx dy err plus minus : Int) : List Span :=
  if dy ≤ dx then
    diskBand c dx dy ++
      (if 0 < err + plus then
        diskRows c (dx - 1) (dy + 1) (err + plus - minus) (plus + 2) (minus - 2)
      else diskRows c dx (dy + 1) (err + plus) (plus + 2) minus)
  else []
termination_by (dx - dy + 1).toNat
decreasing_by all_goals omega

/-- The disk with the given centre and radius. -/
def disk (c : Point) (radius : Int) : List Span := diskRows c radius 0 0 1 (2 * radius - 1)

end Raster

end TurtleCanvas
