import TurtleCanvas.Raster.Rounded
import TurtleCanvas.Raster.Span

/-!
# Thin lines

A line one pixel thick steps along its longer axis and moves along the shorter one whenever the
error it has summed up says so.  Before that it is cut to the picture, by side after side.

* `Raster.visible?` : the part of a line between whole points that lies in a picture.
* `Raster.walk` : the stepping.
* `Raster.thinLine` : the pixels of a line one pixel thick.
-/

namespace TurtleCanvas

namespace Raster

/-! ### Cutting a line to the picture -/

/-- Where a coordinate lies: before the first, behind the last, or in the range. -/
inductive Side where
  | before
  | inRange
  | behind
  deriving DecidableEq, Repr

/-- Where the coordinate `v` lies in the range from 0 to `last`. -/
def side (v last : Int) : Side := if v < 0 then .before else if last < v then .behind else .inRange

/-- The end of the range that a coordinate is moved to when it is cut off. -/
def Side.limit (last : Int) : Side → Int
  | before => 0
  | _ => last

/-- The line lies to one side of the picture as a whole. -/
def missesBy (p q : Point) (right bottom : Int) : Bool :=
  (side p.x right != .inRange && side p.x right == side q.x right) ||
    (side p.y bottom != .inRange && side p.y bottom == side q.y bottom)

/-- Both ends of the line lie in the picture. -/
def bothInside (p q : Point) (right bottom : Int) : Bool :=
  side p.x right == .inRange && side q.x right == .inRange &&
    side p.y bottom == .inRange && side q.y bottom == .inRange

/-- Move the end `p` of the line to `q` along the line into the rows of the picture. -/
def cutRows (p q : Point) (bottom : Int) : Point :=
  if side p.y bottom = .inRange then p
  else
    let y := (side p.y bottom).limit bottom
    ⟨p.x + crossing (y - p.y) (q.x - p.x) (q.y - p.y), y⟩

/-- Move the end `p` of the line to `q` along the line into the columns of the picture. -/
def cutColumns (p q : Point) (right : Int) : Point :=
  if side p.x right = .inRange then p
  else
    let x := (side p.x right).limit right
    ⟨x, p.y + crossing (x - p.x) (q.y - p.y) (q.x - p.x)⟩

/-- The part of the line from `p` to `q` in a picture of `width` columns and `height` rows.  The
rows are cut first, the first end before the second, then the columns in the same way. -/
def visible? (width height : Int) (p q : Point) : Option (Point × Point) :=
  let right := width - 1
  let bottom := height - 1
  if missesBy p q right bottom then none
  else if bothInside p q right bottom then some (p, q)
  else
    let p := cutRows p q bottom
    let q := cutRows q p bottom
    if side p.x right != .inRange && side p.x right == side q.x right then none
    else
      let p := cutColumns p q right
      some (p, cutColumns q p right)

/-! ### Stepping -/

/-- `count` pixels from `p` on.  Each step moves by `along`, and by `across` too when the error is
negative; the error falls by `fall` at each step and rises by `rise` at those. -/
def walk (along across : Point) (fall rise : Int) : Nat → Point → Int → List Point
  | 0, _, _ => []
  | count + 1, p, err =>
    if err < 0 then
      p :: walk along across fall rise count ((p.add along).add across) (err - fall + rise)
    else p :: walk along across fall rise count (p.add along) (err - fall)

/-- The pixels of the line from `p` to `q`, from left to right: one for each step along the longer
axis. -/
def segmentPixels (p q : Point) : List Point :=
  let (p, q) := if q.x < p.x then (q, p) else (p, q)
  let dx := q.x - p.x
  let dy := q.y - p.y
  let down : Point := ⟨0, if dy < 0 then -1 else 1⟩
  let right : Point := ⟨1, 0⟩
  let steep := dx < dy.natAbs
  let major : Nat := if steep then dy.natAbs else dx.natAbs
  let minor : Nat := if steep then dx.natAbs else dy.natAbs
  let (along, across) := if steep then (down, right) else (right, down)
  walk along across (2 * minor) (2 * major) (major + 1) p (major - 2 * minor)

/-- The pixels of a line one pixel thick on a picture of the given size. -/
def thinLine (width height : Nat) (p q : Point) : List Span :=
  match visible? width height p q with
  | none => []
  | some (p, q) => (segmentPixels p q).map Span.ofPoint

end Raster

end TurtleCanvas
