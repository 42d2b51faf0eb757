import TurtleCanvas.Action
import TurtleCanvas.Clip
import TurtleCanvas.Colour.Reading
import TurtleCanvas.Memory
import TurtleCanvas.Picture.Pick
import TurtleCanvas.Raster.Stroke

/-!
# The canvas

A canvas is a picture with a background colour and a count of the changes made to it.  Where a call
paints depends on the size of the canvas and on the geometry of the call alone; the colour is read
only where there is something to paint.

* `Canvas` : the canvas.
* `Canvas.create` : a fresh canvas of one colour.
* `Canvas.lineShape`, `Canvas.dotShape` : what a line and a dot paint, as a shape.
* `Canvas.setPixel`, `Canvas.drawLine`, `Canvas.dot`, `Canvas.clear` : the calls that paint.
* `Canvas.getPixel`, `Canvas.inBounds` : the questions.
-/

namespace TurtleCanvas

/-- A colour as it is given to a call.  Reading it may fail, and is done only when it is needed. -/
abbrev Ink := Except Fault Colour

/-- A canvas. -/
structure Canvas where
  picture : Picture
  /-- The colour of a cleared canvas, as it was given. -/
  background : Colour
  /-- The number of calls that have painted since the canvas was made. -/
  generation : Nat

namespace Canvas

/-- The number of columns. -/
def width (c : Canvas) : Nat := c.picture.width

/-- The number of rows. -/
def height (c : Canvas) : Nat := c.picture.height

/-! ### Making a canvas -/

/-- A component that goes through a double on its way to a byte: it is taken modulo 256, but nothing
is left of one beyond the range of 32 bits. -/
def wrapWord (n : Int) : Int := if -2 ^ 31 ≤ n ∧ n < 2 ^ 31 then n else 0

/-- The pixel that a fresh canvas is filled with.  Components are taken modulo 256 when all of them
are in the same half of the numbers of 64 bits.  They go through doubles when they are not, and all
must fit a byte when one is beyond 64 bits. -/
def backgroundPixel (c : Colour) : Except Fault Pixel :=
  if c.components.all Fault.fitsLong || c.components.all Fault.isUpperHalf then .ok c.wrapped
  else if c.components.all fun n => Fault.fitsLong n || Fault.isUpperHalf n then
    .ok (Colour.mk (wrapWord c.red) (wrapWord c.green) (wrapWord c.blue)).wrapped
  else
    match c.firstBeyondByte? with
    | some n => .error (.ofComponent n)
    | none => .ok c.wrapped

/-- A canvas of a size can be made: its size and its bytes can be counted, and fit into memory. -/
def checkRoom [Memory] (width height : Nat) : Except Fault Unit :=
  if !Fault.fitsLong height || !Fault.fitsLong width then .error .sizeBeyondCount
  else if !Fault.fitsLong (height * width * 3) then .error .bytesBeyondCount
  else if Memory.room < height * width * 3 then .error (.noRoomForCanvas width height)
  else .ok ()

/-- A fresh canvas, whose size must be given by whole numbers.  The sign of the size is looked at
before the background, and whether there is room for it after that. -/
def create [Memory] (width height : Argument) (background : Ink) : Except Fault Canvas := do
  match width.whole?, height.whole? with
  | some w, some h =>
    if w ≤ 0 ∨ h ≤ 0 then .error (.sizeNotPositive width height)
    else
      let colour ← background
      checkRoom w.toNat h.toNat
      let pixel ← backgroundPixel colour
      return ⟨.filled w.toNat h.toNat pixel, colour, 0⟩
  | _, _ => .error (.sizeNotWhole width height)

/-- The background of a canvas for which none is given. -/
def defaultBackground : Ink := .ok ⟨255, 255, 255⟩

/-! ### Geometry -/

/-- The greatest line thickness and dot radius of use: a line or dot of that size covers the canvas
from anywhere near it. -/
def sizeLimit (width height : Nat) : Nat := 2 * (width + height)

/-- What a call paints. -/
inductive Shape where
  /-- A line of a thickness. -/
  | line (p q : Point) (thickness : Nat)
  /-- A filled disk of a radius. -/
  | disk (centre : Point) (radius : Nat)
  deriving Repr, DecidableEq

/-- The runs of a shape on a canvas of the given size.  Very thick lines cannot be drawn, nor shapes
whose numbers, or the sides of whose canvas, do not fit 32 bits. -/
def Shape.spans (width height : Nat) : Shape → Except Fault (List Span)
  | line p q thickness =>
    if Raster.maxThickness < thickness then .error .strokeTooThick
    else if Raster.takesPoint width height p && Raster.takesPoint width height q then
      .ok (Raster.line width height p q thickness)
    else .error .pointRefused
  | disk centre radius =>
    if Raster.takesPoint width height centre && Raster.takesNumber radius then
      .ok (Raster.disk centre radius)
    else .error .pointRefused

open Scalar

variable {α : Type} [Scalar α]

/-- The pixel in column `x` of row `y` belongs to the canvas; the rows are looked at only if the
column does. -/
def insideSize (width height : Nat) (x y : α) : Except Fault Bool := do
  if ← le (int 0) x then
    if ← lt x (int width) then
      if ← le (int 0) y then lt y (int height) else pure false
    else pure false
  else pure false

/-- The rectangle of a canvas, grown on all sides by half a line's thickness and one pixel. -/
def paddedBox (width height thickness : Nat) : Except Fault (Box α) := do
  let pad ← add (← div (int thickness) (real 2)) (int 1)
  let low ← neg pad
  return ⟨low, low, ← add (int (width - 1)) pad, ← add (int (height - 1)) pad⟩

/-- The thickness that a line of a given width is drawn with. -/
def thickness (width height : Nat) (penWidth : Int) : Nat :=
  min (max 1 penWidth).toNat (sizeLimit width height)

/-- The line that a segment is drawn as: its part near the canvas, with its ends moved to the
nearest pixels; nothing when no part of it is near. -/
def lineShape (width height : Nat) (s : Segment α) (penWidth : Int) :
    Except Fault (Option Shape) := do
  let t := thickness width height penWidth
  match ← s.clip (← paddedBox width height t) with
  | none => return none
  | some s =>
    let p : Point := ⟨← round s.x0, ← round s.y0⟩
    let q : Point := ⟨← round s.x1, ← round s.y1⟩
    return some (.line p q t)

/-- The radius that a dot of a given diameter is drawn with. -/
def dotRadius (width height : Nat) (diameter : α) : Except Fault Nat := do
  return min (max 0 (← round (← div diameter (real 2)))).toNat (sizeLimit width height)

/-- A coordinate is at most one more than a radius outside the range from 0 to a size. -/
def nearRange (radius size : Nat) (v : α) : Except Fault Bool := do
  if ← le (int (-(radius : Int) - 1)) v then le v (int (size + radius)) else pure false

/-- The disk that a dot is drawn as; nothing when it cannot reach the canvas, or when its centre or
diameter is not finite. -/
def dotShape (width height : Nat) (x y diameter : α) : Except Fault (Option Shape) := do
  if ← allFinite [x, y, diameter] then
    let r ← dotRadius width height diameter
    if ← nearRange r width x then
      if ← nearRange r height y then
        return some (.disk ⟨← round x, ← round y⟩ r)
      else return none
    else return none
  else return none

/-- The pixel that a point lies on, if it is on the canvas. -/
def pixelAt (width height : Nat) (x y : α) : Except Fault (Option (Nat × Nat)) := do
  let i ← round x
  let j ← round y
  if (0 ≤ i ∧ i < width) ∧ (0 ≤ j ∧ j < height) then return some (i.toNat, j.toNat)
  else return none

/-! ### Painting -/

/-- The painter can make out a colour: no component is beyond the largest double. -/
def canMakeOut (c : Colour) : Bool := c.components.all fun n => n.natAbs < Binary64.overflowBound

/-- The painter takes a colour for a shape.  For a line it takes any, and complains afterwards. -/
def Shape.takes (colour : Colour) : Shape → Bool
  | line .. => true
  | disk .. => canMakeOut colour

/-- The runs that a call paints and the colour that it paints them in, or nothing when there is
nothing to paint.  The colour is read once there is a shape, and the shape is drawn after that. -/
def plan (width height : Nat) (shape : Except Fault (Option Shape)) (ink : Ink) :
    Except Fault (Option (List Span × Colour)) := do
  match ← shape with
  | none => return none
  | some shape =>
    let colour ← ink
    if shape.takes colour then return some (← shape.spans width height, colour)
    else .error .colourRefused

/-- The canvas with runs painted in a colour. -/
def mark (c : Canvas) (spans : List Span) (colour : Colour) : Canvas :=
  { c with picture := c.picture.paint spans colour.brushed, generation := c.generation + 1 }

/-- Paint what a plan says.  A plan that fails, or that has nothing to paint, changes nothing.  What
is painted in a colour that cannot be made out stays, but is not counted. -/
def enact (planned : Except Fault (Option (List Span × Colour))) : Action Canvas Unit := fun c =>
  match planned with
  | .error e => .error e c
  | .ok none => .ok () c
  | .ok (some (spans, colour)) =>
    if canMakeOut colour then .ok () (c.mark spans colour)
    else .error .colourMisread { c.mark spans colour with generation := c.generation }

/-- Draw a line between two points with a pen of the given width. -/
def drawLine (s : Segment α) (ink : Ink) (penWidth : Int) : Action Canvas Unit := fun c =>
  enact (plan c.width c.height (lineShape c.width c.height s penWidth) ink) c

/-- Draw a filled disk. -/
def dot (x y diameter : α) (ink : Ink) : Action Canvas Unit := fun c =>
  enact (plan c.width c.height (dotShape c.width c.height x y diameter) ink) c

/-- The pixel that a call paints and its colour, or nothing when it is not on the canvas. -/
def pixelPlan (width height : Nat) (x y : α) (ink : Ink) :
    Except Fault (Option ((Nat × Nat) × Colour)) := do
  match ← pixelAt width height x y with
  | none => return none
  | some place => return some (place, ← ink)

/-- Store a colour in a pixel, component by component.  A component that does not fit a byte stops
that, with the components before it already stored. -/
def store (x y : Nat) (colour : Colour) : Action Canvas Unit := fun c =>
  match colour.storeIn (c.picture.pixel x y) with
  | (pixel, none) =>
    .ok () { c with picture := c.picture.set x y pixel, generation := c.generation + 1 }
  | (pixel, some n) =>
    .error (.ofComponent n) { c with picture := c.picture.set x y pixel }

/-- Colour the pixel nearest to a point. -/
def setPixel (x y : α) (ink : Ink) : Action Canvas Unit := fun c =>
  match pixelPlan c.width c.height x y ink with
  | .error e => .error e c
  | .ok none => .ok () c
  | .ok (some ((i, j), colour)) => store i j colour c

/-- Fill the canvas with its background, all components of which must fit a byte. -/
def clear : Action Canvas Unit := fun c =>
  match c.background.firstBeyondByte? with
  | some n => .error (.ofComponent n) c
  | none =>
    .ok () { c with
      picture := .filled c.width c.height c.background.clamped
      generation := c.generation + 1 }

/-! ### Questions -/

/-- The pixel in column `x` of row `y` belongs to the canvas. -/
def inBounds (c : Canvas) (x y : α) : Except Fault Bool := insideSize c.width c.height x y

/-- The bytes of the pixel in column `x` of row `y`, which must be given by whole numbers.  With a
flag among them they pick out more than one pixel, which is a fault, or nothing. -/
def getPixel (c : Canvas) (x y : Argument) : Except Fault (List UInt8) := do
  if ← c.inBounds x y then (← c.picture.pick x y).bytes c.picture
  else .error (.outside x y c.width c.height)

end Canvas

end TurtleCanvas
