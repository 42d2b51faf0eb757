import TurtleCanvas.Raster.Line

/-!
# Four-sided areas

Areas with corners between the pixels are drawn in units of 1/65536 of a pixel: first their four
edges as lines, then the rows between the two edges that go down from the topmost corner.

* `Raster.edgeLine` : the pixels of one edge.
* `Raster.Border` : one of the two borders on the way down.
* `Raster.scanRows` : the rows between the borders.
* `Raster.quadrangle` : the runs of a four-sided area.
-/

namespace TurtleCanvas

namespace Raster

/-- The number of units in a pixel. -/
def unit : Int := 65536

/-- The pixel that a coordinate in units rounds to. -/
def toPixel (v : Int) : Int := (v + 32768) / unit

/-! ### Edges as lines -/

/-- `count` pixels from `p` on, in steps given in units. -/
def stride (step : Point) : Nat → Point → List Span
  | 0, _ => []
  | count + 1, p => .ofPoint ⟨p.x / unit, p.y / unit⟩ :: stride step count (p.add step)

/-- The pixels of the line from `p` to `q`, given in units, on a picture of the given size.  One
step is one pixel along the longer axis. -/
def edgeLine (width height : Nat) (p q : Point) : List Span :=
  match visible? (width * unit) (height * unit) p q with
  | none => []
  | some (p, q) =>
    let dx := q.x - p.x
    let dy := q.y - p.y
    let half : Point := ⟨32768, 32768⟩
    if dy.natAbs < dx.natAbs then
      let (p, q, dy) := if dx < 0 then (q, p, -dy) else (p, q, dy)
      let slope := (dy * unit).tdiv ((dx.natAbs ||| 1 : Nat) : Int)
      .ofPoint ⟨toPixel q.x, toPixel q.y⟩ ::
        stride ⟨unit, slope⟩ ((q.x - p.x) / unit + 1).toNat (p.add half)
    else
      let (p, q, dx) := if dy < 0 then (q, p, -dx) else (p, q, dx)
      let slope := (dx * unit).tdiv ((dy.natAbs ||| 1 : Nat) : Int)
      .ofPoint ⟨toPixel q.x, toPixel q.y⟩ ::
        stride ⟨slope, unit⟩ ((q.y - p.y) / unit + 1).toNat (p.add half)

/-! ### Rows between two borders -/

/-- The corners of a four-sided area in order. -/
abbrev Corners := Fin 4 → Point

/-- One of the two borders of the area on the way down: the corner it last left, where it crosses
the current row and by how much that changes from row to row, and the row that it next turns at. -/
structure Border where
  corner : Fin 4
  x : Int
  slope : Int
  turn : Int

/-- Let a border pass its next corners until one lies below the row, walking around the area in
steps of `direction` corners; `none` when no edge is left. -/
def Border.turnAt (corners : Corners) (direction : Fin 4) (row : Int) (start : Fin 4) :
    Nat → Option (Border × Nat)
  | 0 => none
  | edges + 1 =>
    let next := start + direction
    let p := corners start
    let q := corners next
    let turn := toPixel q.y
    if row < turn then
      let slope := ((q.x - p.x) * 2 + (turn - row)).tdiv (2 * (turn - row))
      some (⟨next, p.x, slope, turn⟩, edges)
    else turnAt corners direction row next edges

/-- A border at a row: past a corner if it turns there. -/
def Border.at (b : Border) (corners : Corners) (direction : Fin 4) (row : Int) (edges : Nat) :
    Option (Border × Nat) :=
  if b.turn ≤ row then turnAt corners direction row b.corner edges else some (b, edges)

/-- The border one row further down. -/
def Border.down (b : Border) : Border := { b with x := b.x + b.slope }

/-- The run between two borders in a row; there is none above the picture. -/
def betweenBorders (row : Int) (a b : Border) : List Span :=
  if row < 0 then []
  else if b.x < a.x then [⟨row, toPixel b.x, toPixel a.x⟩]
  else [⟨row, toPixel a.x, toPixel b.x⟩]

/-- The runs of `count` rows from `row` on, with `edges` edges left to turn into. -/
def scanRows (corners : Corners) : Nat → Int → Nat → Border → Border → List Span
  | 0, _, _, _, _ => []
  | count + 1, row, edges, a, b =>
    match a.at corners 1 row edges with
    | none => []
    | some (a, edges) =>
      match b.at corners 3 row edges with
      | none => []
      | some (b, edges) =>
        betweenBorders row a b ++ scanRows corners count (row + 1) edges a.down b.down

/-- The first corner with the smallest row. -/
def topCorner (v : Corners) : Fin 4 :=
  let lower (i j : Fin 4) : Fin 4 := if (v j).y < (v i).y then j else i
  lower (lower (lower 0 1) 2) 3

/-- The rows of a four-sided area, unless it lies outside the picture as a whole. -/
def fillRows (width height : Nat) (v : Corners) : List Span :=
  let least (f : Point → Int) := min (min (f (v 0)) (f (v 1))) (min (f (v 2)) (f (v 3)))
  let greatest (f : Point → Int) := max (max (f (v 0)) (f (v 1))) (max (f (v 2)) (f (v 3)))
  let left := toPixel (least Point.x)
  let right := toPixel (greatest Point.x)
  let top := toPixel (least Point.y)
  let bottom := toPixel (greatest Point.y)
  if right < 0 ∨ bottom < 0 ∨ (width : Int) ≤ left ∨ (height : Int) ≤ top then []
  else
    let start : Border := ⟨topCorner v, -unit, 0, top⟩
    let rows := min bottom ((height : Int) - 1) - top + 1
    scanRows v rows.toNat top 4 start start

/-- A four-sided area with its edges. -/
def quadrangle (width height : Nat) (v : Corners) : List Span :=
  edgeLine width height (v 3) (v 0) ++ edgeLine width height (v 0) (v 1) ++
    edgeLine width height (v 1) (v 2) ++ edgeLine width height (v 2) (v 3) ++
    fillRows width height v

end Raster

end TurtleCanvas
